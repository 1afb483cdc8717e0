/-
Module: StingerFx.Backtest.MetricDsl
Layer: Backtest
Purpose: The expressions of user-defined metrics. A syntax tree is checked node by node
  against a whitelist, and an accepted one is evaluated by cases, with the metrics as
  its variables.
Trusted boundary: human-reviewed model of the source's metric_dsl module; parsing is
  the language's own
Main exports: MetricDSLError, safeFunction?, validate, evalNode, MetricExpression,
  MetricExpression.freeVariables, MetricExpression.evaluate, compileMetric,
  evaluateCustomMetrics
-/
import StingerFx.Lib.Dict
import StingerFx.Lib.PyAst

namespace StingerFx

open Lib

inductive MetricDSLError where
  | badSyntax (message source : String)
  | disallowedNode (className : String)
  | disallowedConstant (className : String)
  | indirectCall
  | notInWhitelist (function : String)
  | keywordArguments
  | disallowedBinaryOp (className : String)
  | disallowedUnaryOp (className : String)
  | disallowedComparator (className : String)
  | unexpectedNode (className : String)
  | undefinedMetric (name source : String)
  | divisionByZero (source : String)
  | runtime (source : String) (cause : PyError)
  /-- an error of the evaluator is a `ValueError` too -/
  | runtimeOwn (source : String) (cause : MetricDSLError)
deriving Repr, DecidableEq

/-- The text of an error, given how strings and exceptions are shown. -/
def MetricDSLError.text (quoted : String → String) (shown : PyError → String) :
    MetricDSLError → String
  | .badSyntax message source => "syntax error: " ++ message ++ " in " ++ quoted source
  | .disallowedNode className => "disallowed node " ++ className ++ " in expression"
  | .disallowedConstant className => "disallowed constant type " ++ className
  | .indirectCall => "only direct function calls allowed"
  | .notInWhitelist function => "function " ++ quoted function ++ " not in safe whitelist"
  | .keywordArguments => "keyword arguments not allowed in calls"
  | .disallowedBinaryOp className => "disallowed binary op " ++ className
  | .disallowedUnaryOp className => "disallowed unary op " ++ className
  | .disallowedComparator className => "disallowed comparator " ++ className
  | .unexpectedNode className => "unexpected node " ++ className
  | .undefinedMetric name source =>
      "undefined metric " ++ quoted name ++ " in expression " ++ quoted source
  | .divisionByZero source => "division by zero in expression " ++ quoted source
  | .runtime source cause =>
      "runtime error in expression " ++ quoted source ++ ": " ++ shown cause
  | .runtimeOwn source cause =>
      "runtime error in expression " ++ quoted source ++ ": " ++ cause.text quoted shown

/-! ### The whitelists -/

/-- `_BIN_OPS`. -/
def binOps : BinOperator → Option ArithOp
  | .add => some .add
  | .sub => some .sub
  | .mult => some .mult
  | .div => some .div
  | .floorDiv => some .floorDiv
  | .mod => some .mod
  | .pow => some .pow
  | .matMult | .lShift | .rShift | .bitOr | .bitXor | .bitAnd => none

/-- `_UNARY_OPS`. -/
def unaryOps : UnaryOperator → Option Negation
  | .uSub => some .minus
  | .uAdd => some .plus
  | .not => some .not
  | .invert => none

/-- `_CMP_OPS`. -/
def cmpOps : CmpOperator → Option CompareOp
  | .eq => some .eq
  | .notEq => some .notEq
  | .lt => some .lt
  | .ltE => some .ltE
  | .gt => some .gt
  | .gtE => some .gtE
  | .is | .isNot | .in | .notIn => none

def safeFunctions : List (String × PyBuiltin) :=
  [("abs", .abs), ("min", .min), ("max", .max), ("round", .round), ("sqrt", .sqrt),
    ("log", .log), ("exp", .exp), ("floor", .floor), ("ceil", .ceil)]

def safeFunction? (name : String) : Option PyBuiltin := safeFunctions.lookup name

/-- An instance of one of `_ALLOWED_NODES`. -/
def isAllowed : PyItem → Bool
  | .expression _ | .load | .boolOperator _ => true
  | .node (.other _ _) => false
  | .node _ => true
  | .binOperator op => (binOps op).isSome
  | .unaryOperator op => (unaryOps op).isSome
  | .cmpOperator op => (cmpOps op).isSome

/-- The class of a constant that is not allowed. -/
def disallowedConstant? : PyConstant → Option String
  | .int _ | .float _ | .bool _ | .none => none
  | .complex _ _ => some "complex"
  | .str _ => some "str"
  | .bytes => some "bytes"
  | .ellipsis => some "ellipsis"

/-! ### The check -/

/-- One turn of the loop of `_validate`. -/
def validateItem (item : PyItem) : Except MetricDSLError Unit :=
  if isAllowed item then
    match item with
    | .node (.constant value) =>
        match disallowedConstant? value with
        | some className => .error (.disallowedConstant className)
        | none => .ok ()
    | .node (.call (.name function) _ keywords) =>
        if safeFunction? function = none then .error (.notInWhitelist function)
        else if keywords.isEmpty then .ok ()
        else .error .keywordArguments
    | .node (.call _ _ _) => .error .indirectCall
    | _ => .ok ()
  else .error (.disallowedNode item.className)

/-- The first error of some items. -/
def validateItems : List PyItem → Except MetricDSLError Unit
  | [] => .ok ()
  | item :: rest =>
      match validateItem item with
      | .error error => .error error
      | .ok () => validateItems rest

def validate (tree : PyItem) : Except MetricDSLError Unit := validateItems tree.walk

/-! ### The evaluator -/

/-- What an evaluation can raise. -/
inductive EvalError where
  | key (name : String)
  | python (error : PyError)
  | assertion
  | dsl (error : MetricDSLError)
deriving Repr, DecidableEq

/-- An operator or a function is called. -/
def calling {α : Type} (outcome : Except PyError α) : Except EvalError α :=
  outcome.mapError .python

section Evaluator

variable (lib : Libm) (scope : Dict String PyValue)

def evalName (id : String) : Except EvalError PyValue :=
  match safeFunction? id with
  | some function => .ok (.func function)
  | none =>
      match scope.get? id with
      | none => .error (.key id)
      | some value => .ok value

def applyBinary (op : BinOperator) (left right : PyValue) : Except EvalError PyValue :=
  match binOps op with
  | none => .error (.dsl (.disallowedBinaryOp (PyItem.binOperator op).className))
  | some function => calling (arith lib function left right)

def applyUnary (op : UnaryOperator) (operand : PyValue) : Except EvalError PyValue :=
  match unaryOps op with
  | none => .error (.dsl (.disallowedUnaryOp (PyItem.unaryOperator op).className))
  | some function => calling (unary function operand)

def applyComparator (op : CmpOperator) (current right : PyValue) :
    Except EvalError Bool :=
  match cmpOps op with
  | none => .error (.dsl (.disallowedComparator (PyItem.cmpOperator op).className))
  | some function => calling (compare function current right)

/-- `all(values)` or `any(values)`. -/
def combine (op : BoolOperator) (values : List PyValue) : PyValue :=
  match op with
  | .and => .bool (values.all PyValue.truth)
  | .or => .bool (values.any PyValue.truth)

mutual

/-- `_eval_node`. -/
def evalNode : PyNode → Except EvalError PyValue
  | .constant value => .ok value.value
  | .name id => evalName scope id
  | .binOp left op right => do
      let a ← evalNode left
      let b ← evalNode right
      applyBinary lib op a b
  | .unaryOp op operand => do
      let a ← evalNode operand
      applyUnary op a
  | .boolOp op values => do
      let evaluated ← evalNodes values
      return combine op evaluated
  | .compare left ops comparators => do
      let current ← evalNode left
      evalChain current ops comparators
  | .ifExp test body orelse => do
      let condition ← evalNode test
      if condition.truth then evalNode body else evalNode orelse
  | .call (.name id) args _ =>
      match safeFunction? id with
      | none => .error (.key id)
      | some function => do
          let evaluated ← evalNodes args
          calling (callBuiltin lib function evaluated)
  | .call _ _ _ => .error .assertion
  | .other className _ => .error (.dsl (.unexpectedNode className))

def evalNodes : List PyNode → Except EvalError (List PyValue)
  | [] => .ok []
  | first :: rest => do
      let value ← evalNode first
      let values ← evalNodes rest
      return value :: values

/-- The loop over a comparison's operators and comparators, of which there must be as
many. -/
def evalChain (current : PyValue) :
    List CmpOperator → List PyNode → Except EvalError PyValue
  | [], [] => .ok (.bool true)
  | op :: ops, comparator :: comparators => do
      let right ← evalNode comparator
      let holds ← applyComparator op current right
      if holds then evalChain right ops comparators else return .bool false
  | [], _ :: _ | _ :: _, [] => .error (.python .value)

end

end Evaluator

/-! ### Compiled expressions -/

/-- An expression whose tree the check has accepted. -/
structure MetricExpression where
  source : String
  tree : PyNode
  accepted : validate (.expression tree) = .ok ()

namespace MetricExpression

/-- `_collect_free_variables`. -/
def freeVariables (expr : MetricExpression) : List String :=
  (PyItem.expression expr.tree).walk.filterMap fun
    | .node (.name id) => if safeFunction? id = none then some id else none
    | _ => none

/-- The exceptions that `evaluate` turns into its own. -/
def caught (source : String) : EvalError → EvalError
  | .key name => .dsl (.undefinedMetric name source)
  | .python .zeroDivision => .dsl (.divisionByZero source)
  | .python .type => .dsl (.runtime source .type)
  | .python .value => .dsl (.runtime source .value)
  | .dsl error => .dsl (.runtimeOwn source error)
  -- these two are not caught
  | .python .overflow => .python .overflow
  | .assertion => .assertion

def evaluate (lib : Libm) (expr : MetricExpression) (metrics : Dict String PyValue) :
    Except EvalError PyValue :=
  (evalNode lib metrics expr.tree).mapError (caught expr.source)

end MetricExpression

/-- `compile_metric`; `parsed` is what the language's parser makes of the source, a
tree or the message of a syntax error. -/
def compileMetric (source : String) (parsed : Except String PyNode) :
    Except MetricDSLError MetricExpression :=
  match parsed with
  | .error message => .error (.badSyntax message source)
  | .ok tree =>
      match accepted : validate (.expression tree) with
      | .error error => .error error
      | .ok () => .ok ⟨source, tree, accepted⟩

/-- The loop of `evaluate_custom_metrics`. -/
def evaluateEntries (lib : Libm) (parse : String → Except String PyNode)
    (baseMetrics : Dict String PyValue) :
    List (String × String) → Dict String PyValue →
      Except EvalError (Dict String PyValue)
  | [], out => .ok out
  | (name, source) :: rest, out => do
      let compiled ← (compileMetric source (parse source)).mapError .dsl
      let value ← compiled.evaluate lib baseMetrics
      evaluateEntries lib parse baseMetrics rest (out.set name value)

def evaluateCustomMetrics (lib : Libm) (parse : String → Except String PyNode)
    (customMetrics : Dict String String) (baseMetrics : Dict String PyValue) :
    Except EvalError (Dict String PyValue) :=
  evaluateEntries lib parse baseMetrics customMetrics.items baseMetrics

end StingerFx
