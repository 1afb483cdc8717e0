/-
Module: StingerFx.Lib.PyEval
Layer: Lib
Purpose: What an expression over numbers means in Python. `and` and `or` stop at the
  first operand that decides, and their value is the one of the operand they stopped at.
Trusted boundary: human-reviewed model of the language's expressions. Other operators,
  keyword arguments and other classes of nodes are outside of it
Main exports: PyRaise, BoolOperator.decidedBy, pyEval
-/
import StingerFx.Lib.PyAst

namespace Lib

inductive PyRaise where
  | name (id : String)
  | error (cause : PyError)
  /-- not a part of the language that is modelled here -/
  | outside
deriving Repr, DecidableEq

def BinOperator.arith? : BinOperator → Option ArithOp
  | .add => some .add
  | .sub => some .sub
  | .mult => some .mult
  | .div => some .div
  | .floorDiv => some .floorDiv
  | .mod => some .mod
  | .pow => some .pow
  | .matMult | .lShift | .rShift | .bitOr | .bitXor | .bitAnd => none

def UnaryOperator.negation? : UnaryOperator → Option Negation
  | .uSub => some .minus
  | .uAdd => some .plus
  | .not => some .not
  | .invert => none

def CmpOperator.compare? : CmpOperator → Option CompareOp
  | .eq => some .eq
  | .notEq => some .notEq
  | .lt => some .lt
  | .ltE => some .ltE
  | .gt => some .gt
  | .gtE => some .gtE
  | .is | .isNot | .in | .notIn => none

/-- An operand with this value ends an `and` or an `or`. -/
def BoolOperator.decidedBy : BoolOperator → PyValue → Bool
  | .and, value => !value.truth
  | .or, value => value.truth

section Evaluation

variable (lib : Libm) (names : String → Option PyValue)

/-- An operator or a function of the language. -/
def applied {α β : Type} (function : Option α) (run : α → Except PyError β) :
    Except PyRaise β :=
  match function with
  | some function => (run function).mapError .error
  | none => .error .outside

mutual

def pyEval : PyNode → Except PyRaise PyValue
  | .constant value => .ok value.value
  | .name id =>
      match names id with
      | some value => .ok value
      | none => .error (.name id)
  | .binOp left op right => do
      let a ← pyEval left
      let b ← pyEval right
      applied op.arith? fun function => arith lib function a b
  | .unaryOp op operand => do
      let a ← pyEval operand
      applied op.negation? fun function => unary function a
  | .boolOp op values => pyOperands op values
  | .compare left ops comparators => do
      let current ← pyEval left
      pyChain current ops comparators
  | .ifExp test body orelse => do
      let condition ← pyEval test
      if condition.truth then pyEval body else pyEval orelse
  | .call func args keywords => do
      let callee ← pyEval func
      let values ← pyEvals args
      if keywords.isEmpty then
        match callee with
        | .func f => (callBuiltin lib f values).mapError .error
        | _ => .error (.error .type)
      else .error .outside
  | .other _ _ => .error .outside

def pyEvals : List PyNode → Except PyRaise (List PyValue)
  | [] => .ok []
  | first :: rest => do
      let value ← pyEval first
      let values ← pyEvals rest
      return value :: values

/-- The operands of an `and` or an `or`, of which there are some. -/
def pyOperands (op : BoolOperator) : List PyNode → Except PyRaise PyValue
  | [] => .error .outside
  | first :: rest => do
      let value ← pyEval first
      if rest.isEmpty || op.decidedBy value then return value
      else pyOperands op rest

/-- The rest of a comparison, with as many operators as operands. -/
def pyChain (current : PyValue) :
    List CmpOperator → List PyNode → Except PyRaise PyValue
  | [], [] => .ok (.bool true)
  | op :: ops, comparator :: comparators => do
      let right ← pyEval comparator
      let holds ← applied op.compare? fun function => compare function current right
      if holds then pyChain right ops comparators else return .bool false
  | [], _ :: _ | _ :: _, [] => .error .outside

end

end Evaluation

end Lib
