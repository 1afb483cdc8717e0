/-
Module: StingerFx.Proofs.MetricMeaning
Layer: Proofs
Purpose: When the evaluator of metric expressions gives what Python gives. It evaluates
  all operands of an `and` or an `or` and answers with a boolean; everywhere else it
  follows the language.
Trusted boundary: none (fully proved)
Main exports: pythonNames, NumericScope, MeansPython, Agrees, plain, evalNode_of_plain,
  MetricExpression.means_python, MetricExpression.guard_is_no_guard
-/
import StingerFx.Lib.PyEval
import StingerFx.Lib.PyResults
import StingerFx.Proofs.MetricChecks

namespace StingerFx

open Lib

/-- The names for Python: those of the scope and the whitelisted functions. -/
def pythonNames (scope : Dict String PyValue) (id : String) : Option PyValue :=
  match scope.get? id with
  | some value => some value
  | none => (safeFunction? id).map .func

/-- Numbers for the free variables, and for no function's name. -/
structure NumericScope (expr : MetricExpression) (scope : Dict String PyValue) : Prop where
  numeric : ∀ value ∈ scope.values, value.isReal = true
  defined : ∀ name ∈ expr.freeVariables, name ∈ scope.keys
  unshadowed : ∀ name ∈ scope.keys, safeFunction? name = none

/-- A number or a boolean that Python gives is the result, and where Python does not
raise there is one. -/
def MeansPython (lib : Libm) (expr : MetricExpression) (scope : Dict String PyValue) :
    Prop :=
  ∀ value, pyEval lib (pythonNames scope) expr.tree = .ok value →
    (value.isNumber = true → expr.evaluate lib scope = .ok value) ∧
      ∃ result, expr.evaluate lib scope = .ok result

/-! ### Where short circuits make no difference -/

section Condition

variable (lib : Libm) (names : String → Option PyValue)

def isBoolean : PyValue → Bool
  | .bool _ => true
  | .int _ | .float _ | .none | .complex _ _ | .func _ | .other _ => false

mutual

/-- No short circuit of Python skips an operand that would raise, and one whose value
is used, not only its truth, gives a boolean. The value of the whole is used if
`exact`. -/
def plain (exact : Bool) : PyNode → Bool
  | .constant _ | .name _ | .other _ _ => true
  | .binOp left _ right => plain true left && plain true right
  | .unaryOp op operand => plain (op != .not) operand
  | .boolOp op values => plainOperands exact op values
  | .compare left ops comparators =>
      plain true left &&
        match pyEval lib names left with
        | .ok current => plainChain current ops comparators
        | .error _ => true
  | .ifExp test body orelse =>
      plain false test &&
        match pyEval lib names test with
        | .ok condition =>
            if condition.truth then plain exact body else plain exact orelse
        | .error _ => true
  | .call _ args _ => plainAll args

def plainAll : List PyNode → Bool
  | [] => true
  | first :: rest => plain true first && plainAll rest

/-- Operands of an `and` or an `or`, up to the one that Python stops at. -/
def plainOperands (exact : Bool) (op : BoolOperator) : List PyNode → Bool
  | [] => true
  | first :: rest =>
      plain false first &&
        match pyEval lib names first with
        | .ok value =>
            if rest.isEmpty || op.decidedBy value then
              (!exact || isBoolean value) && plainSkipped rest
            else plainOperands exact op rest
        | .error _ => true

/-- Operands that Python does not evaluate. -/
def plainSkipped : List PyNode → Bool
  | [] => true
  | first :: rest =>
      (pyEval lib names first).isOk && plain false first && plainSkipped rest

def plainChain (current : PyValue) : List CmpOperator → List PyNode → Bool
  | op :: ops, comparator :: comparators =>
      plain true comparator &&
        match pyEval lib names comparator with
        | .ok right =>
            match applied op.compare? fun function => compare function current right with
            | .ok holds => !holds || plainChain right ops comparators
            | .error _ => true
        | .error _ => true
  | _, _ => true

end

end Condition

/-- Values with the same truth, and the same ones if `exact`. -/
def Agrees (exact : Bool) (result value : PyValue) : Prop :=
  result.truth = value.truth ∧ (exact = true → result = value)

theorem Agrees.rfl {exact : Bool} {value : PyValue} : Agrees exact value value :=
  ⟨Eq.refl _, fun _ => Eq.refl _⟩

theorem Agrees.of_eq {exact : Bool} {result value : PyValue} (same : result = value) :
    Agrees exact result value :=
  ⟨congrArg _ same, fun _ => same⟩

/-- The language's tables are the evaluator's. -/
theorem binOps_eq (op : BinOperator) : binOps op = op.arith? := by
  cases op <;> rfl

theorem unaryOps_eq (op : UnaryOperator) : unaryOps op = op.negation? := by
  cases op <;> rfl

theorem cmpOps_eq (op : CmpOperator) : cmpOps op = op.compare? := by
  cases op <;> rfl

/-! ### Operators -/

section Outcomes

variable {α β : Type}

theorem mapError_eq_ok {ε δ : Type} {outcome : Except ε α} {wrap : ε → δ} {result : α}
    (gives : outcome.mapError wrap = .ok result) : outcome = .ok result := by
  cases outcome with
  | ok value => exact congrArg _ (Except.ok.inj gives)
  | error cause => cases gives

/-- An operator that the language applied. -/
theorem applied_eq_ok {function : Option α} {run : α → Except PyError β} {result : β}
    (gives : applied function run = .ok result) :
    ∃ found, function = some found ∧ run found = .ok result := by
  cases function with
  | some found => exact ⟨found, rfl, mapError_eq_ok gives⟩
  | none => cases gives

end Outcomes

theorem combine_singleton (op : BoolOperator) (value : PyValue) :
    combine op [value] = .bool value.truth := by
  cases op with
  | and => exact congrArg _ (Bool.and_true _)
  | or => exact congrArg _ (Bool.or_false _)

theorem combine_decided {op : BoolOperator} {value : PyValue} (rest : List PyValue)
    (decided : op.decidedBy value = true) :
    combine op (value :: rest) = .bool value.truth := by
  cases op with
  | and =>
      have falsy : value.truth = false := Bool.not_eq_true' _ ▸ decided
      rw [combine, List.all_cons, falsy, Bool.false_and]
  | or =>
      have truthy : value.truth = true := decided
      rw [combine, List.any_cons, truthy, Bool.true_or]

theorem combine_undecided {op : BoolOperator} {value : PyValue} (rest : List PyValue)
    (undecided : op.decidedBy value = false) :
    combine op (value :: rest) = combine op rest := by
  cases op with
  | and =>
      have truthy : value.truth = true := Bool.not_eq_false' _ ▸ undecided
      rw [combine, combine, List.all_cons, truthy, Bool.true_and]
  | or =>
      have falsy : value.truth = false := undecided
      rw [combine, combine, List.any_cons, falsy, Bool.false_or]

theorem decidedBy_congr (op : BoolOperator) {one two : PyValue}
    (same : one.truth = two.truth) : op.decidedBy one = op.decidedBy two := by
  cases op with
  | and => exact congrArg (!·) same
  | or => exact same

/-- A boolean is its own truth. -/
theorem agrees_truth {exact : Bool} {result value : PyValue}
    (same : result.truth = value.truth) (fine : (!exact || isBoolean value) = true) :
    Agrees exact (.bool result.truth) value := by
  refine ⟨same, fun used => ?_⟩
  rw [used] at fine
  cases value with
  | bool b => exact congrArg _ same
  | int n => cases fine
  | float x => cases fine
  | none => cases fine
  | complex re im => cases fine
  | func f => cases fine
  | other className => cases fine

/-! ### Where they make none, the evaluator follows Python -/

section Simulation

variable {lib : Libm} {scope : Dict String PyValue} {names : String → Option PyValue}

theorem evalNodes_of_plain {nodes : List PyNode} {values : List PyValue}
    (each : ∀ node ∈ nodes, ∀ value, plain lib names true node = true →
      pyEval lib names node = .ok value → evalNode lib scope node = .ok value)
    (plainly : plainAll lib names nodes = true)
    (meant : pyEvals lib names nodes = .ok values) :
    evalNodes lib scope nodes = .ok values := by
  induction nodes generalizing values with
  | nil =>
      cases meant
      rfl
  | cons first rest ih =>
      obtain ⟨here, later⟩ := List.forall_mem_cons.mp each
      rw [plainAll, Bool.and_eq_true] at plainly
      rw [pyEvals] at meant
      obtain ⟨value, atFirst, meant⟩ := bind_eq_ok_iff.mp meant
      obtain ⟨others, atRest, meant⟩ := bind_eq_ok_iff.mp meant
      cases meant
      rw [evalNodes, here value plainly.1 atFirst, ih later plainly.2 atRest]
      rfl

/-- An operand whose truth is right. -/
def TruthRight (lib : Libm) (scope : Dict String PyValue)
    (names : String → Option PyValue) (node : PyNode) : Prop :=
  ∀ value, plain lib names false node = true → pyEval lib names node = .ok value →
    ∃ result, evalNode lib scope node = .ok result ∧ result.truth = value.truth

theorem evalNodes_of_skipped {nodes : List PyNode}
    (each : ∀ node ∈ nodes, TruthRight lib scope names node)
    (skipped : plainSkipped lib names nodes = true) :
    ∃ results, evalNodes lib scope nodes = .ok results := by
  induction nodes with
  | nil => exact ⟨[], rfl⟩
  | cons first rest ih =>
      obtain ⟨here, later⟩ := List.forall_mem_cons.mp each
      rw [plainSkipped, Bool.and_eq_true, Bool.and_eq_true] at skipped
      obtain ⟨⟨fine, plainly⟩, others⟩ := skipped
      obtain ⟨results, atRest⟩ := ih later others
      cases meant : pyEval lib names first with
      | error cause =>
          rw [meant] at fine
          cases fine
      | ok value =>
          obtain ⟨result, atFirst, -⟩ := here value plainly meant
          refine ⟨result :: results, ?_⟩
          rw [evalNodes, atFirst, atRest]
          rfl

/-- The induction is on the operands; the first one that decides ends both. -/
theorem combine_of_plain {exact : Bool} {op : BoolOperator} {nodes : List PyNode}
    {value : PyValue} (each : ∀ node ∈ nodes, TruthRight lib scope names node)
    (plainly : plainOperands lib names exact op nodes = true)
    (meant : pyOperands lib names op nodes = .ok value) :
    ∃ results, evalNodes lib scope nodes = .ok results ∧
      Agrees exact (combine op results) value := by
  induction nodes with
  | nil => cases meant
  | cons first rest ih =>
      obtain ⟨here, later⟩ := List.forall_mem_cons.mp each
      rw [pyOperands] at meant
      obtain ⟨current, atFirst, meant⟩ := bind_eq_ok_iff.mp meant
      rw [plainOperands, Bool.and_eq_true, atFirst] at plainly
      obtain ⟨firstPlain, plainly⟩ := plainly
      obtain ⟨result, evaluated, same⟩ := here current firstPlain atFirst
      cases ends : rest.isEmpty || op.decidedBy current with
      | true =>
          simp only [ends, if_true] at meant plainly
          cases meant
          obtain ⟨fine, skipped⟩ := Bool.and_eq_true _ _ ▸ plainly
          obtain ⟨results, atRest⟩ := evalNodes_of_skipped later skipped
          refine ⟨result :: results, ?_, ?_⟩
          · rw [evalNodes, evaluated, atRest]
            rfl
          · -- the value is the truth of the operand
            have whole : combine op (result :: results) = .bool result.truth := by
              cases decided : op.decidedBy result with
              | true => exact combine_decided results decided
              | false =>
                  rw [decidedBy_congr op same.symm] at ends
                  rw [decided, Bool.or_false, List.isEmpty_iff] at ends
                  subst ends
                  cases atRest
                  exact combine_singleton op result
            rw [whole]
            exact agrees_truth same fine
      | false =>
          simp only [ends, Bool.false_eq_true, if_false] at meant plainly
          obtain ⟨results, atRest, agrees⟩ := ih later plainly meant
          refine ⟨result :: results, ?_, ?_⟩
          · rw [evalNodes, evaluated, atRest]
            rfl
          · have undecided : op.decidedBy result = false := by
              rw [decidedBy_congr op same]
              exact (Bool.or_eq_false_iff.mp ends).2
            rw [combine_undecided results undecided]
            exact agrees

theorem evalChain_of_plain {ops : List CmpOperator} {comparators : List PyNode}
    {current value : PyValue}
    (each : ∀ node ∈ comparators, ∀ value, plain lib names true node = true →
      pyEval lib names node = .ok value → evalNode lib scope node = .ok value)
    (plainly : plainChain lib names current ops comparators = true)
    (meant : pyChain lib names current ops comparators = .ok value) :
    evalChain lib scope current ops comparators = .ok value := by
  induction comparators generalizing current ops with
  | nil =>
      cases ops with
      | nil =>
          cases meant
          rfl
      | cons op ops => cases meant
  | cons first rest ih =>
      cases ops with
      | nil => cases meant
      | cons op ops =>
          obtain ⟨here, later⟩ := List.forall_mem_cons.mp each
          rw [pyChain] at meant
          obtain ⟨right, atFirst, meant⟩ := bind_eq_ok_iff.mp meant
          obtain ⟨holds, compared, meant⟩ := bind_eq_ok_iff.mp meant
          rw [plainChain, Bool.and_eq_true, atFirst] at plainly
          obtain ⟨firstPlain, plainly⟩ := plainly
          obtain ⟨function, found, outcome⟩ := applied_eq_ok compared
          have tested : applyComparator op current right = .ok holds := by
            rw [applyComparator, cmpOps_eq, found]
            exact congrArg calling outcome
          rw [evalChain, here right firstPlain atFirst]
          change (applyComparator op current right >>= _) = .ok value
          rw [tested]
          simp only [compared] at plainly
          cases holds with
          | false =>
              cases meant
              rfl
          | true => exact ih later plainly meant

/-- A tree whose short circuits make no difference: the evaluator has a result, which
agrees with Python's. -/
theorem evalNode_of_plain {tree : PyNode} {exact : Bool} {value : PyValue}
    (known : ∀ id function, safeFunction? id = some function →
      names id = some (.func function))
    (defined : ∀ id value, names id = some value → evalName scope id = .ok value)
    (passes : Passes tree) (plainly : plain lib names exact tree = true)
    (meant : pyEval lib names tree = .ok value) :
    ∃ result, evalNode lib scope tree = .ok result ∧ Agrees exact result value := by
  induction tree using PyNode.induct generalizing exact value with
  | constant constant =>
      cases meant
      exact ⟨_, rfl, .rfl⟩
  | name id =>
      rw [pyEval] at meant
      cases stored : names id with
      | none =>
          rw [stored] at meant
          cases meant
      | some found =>
          rw [stored] at meant
          cases meant
          exact ⟨_, defined id _ stored, .rfl⟩
  | binOp left op right one two =>
      rw [plain, Bool.and_eq_true] at plainly
      rw [pyEval] at meant
      obtain ⟨a, atLeft, meant⟩ := bind_eq_ok_iff.mp meant
      obtain ⟨b, atRight, meant⟩ := bind_eq_ok_iff.mp meant
      obtain ⟨function, found, outcome⟩ := applied_eq_ok meant
      obtain ⟨x, leftGives, -, same⟩ :=
        one (passes.child List.mem_cons_self) plainly.1 atLeft
      obtain ⟨y, rightGives, -, alike⟩ :=
        two (passes.child (List.mem_cons_of_mem _ (List.mem_cons_of_mem _
          List.mem_cons_self))) plainly.2 atRight
      refine ⟨value, ?_, .rfl⟩
      rw [evalNode, leftGives, rightGives, same rfl, alike rfl]
      change applyBinary lib op a b = .ok value
      rw [applyBinary, binOps_eq, found]
      exact congrArg calling outcome
  | unaryOp op operand one =>
      rw [plain] at plainly
      rw [pyEval] at meant
      obtain ⟨a, below, meant⟩ := bind_eq_ok_iff.mp meant
      obtain ⟨function, found, outcome⟩ := applied_eq_ok meant
      obtain ⟨x, gives, truth, same⟩ :=
        one (passes.child (List.mem_cons_of_mem _ List.mem_cons_self)) plainly below
      refine ⟨value, ?_, .rfl⟩
      -- a negation needs only the truth of its operand
      have alike : unary function x = unary function a := by
        cases op with
        | not =>
            cases found
            exact congrArg (fun truth => Except.ok (PyValue.bool !truth)) truth
        | invert => cases found
        | uAdd => rw [same rfl]
        | uSub => rw [same rfl]
      rw [evalNode, gives]
      change applyUnary op x = .ok value
      rw [applyUnary, unaryOps_eq, found]
      exact congrArg calling (alike.trans outcome)
  | boolOp op values all =>
      rw [plain] at plainly
      rw [pyEval] at meant
      have each : ∀ node ∈ values, TruthRight lib scope names node := by
        intro node member value truthPlain gives
        obtain ⟨result, evaluated, truth, -⟩ :=
          all node member (passes.child (mem_children_boolOp member)) truthPlain gives
        exact ⟨result, evaluated, truth⟩
      obtain ⟨results, evaluated, agrees⟩ := combine_of_plain each plainly meant
      refine ⟨combine op results, ?_, agrees⟩
      rw [evalNode, evaluated]
      rfl
  | compare left ops comparators one all =>
      rw [pyEval] at meant
      obtain ⟨current, atLeft, meant⟩ := bind_eq_ok_iff.mp meant
      rw [plain, Bool.and_eq_true, atLeft] at plainly
      obtain ⟨x, leftGives, -, same⟩ :=
        one (passes.child List.mem_cons_self) plainly.1 atLeft
      refine ⟨value, ?_, .rfl⟩
      rw [evalNode, leftGives, same rfl]
      refine evalChain_of_plain ?_ plainly.2 meant
      intro node member value nodePlain gives
      obtain ⟨y, nodeGives, -, alike⟩ :=
        all node member (passes.child (mem_children_comparator member)) nodePlain gives
      rw [nodeGives, alike rfl]
  | ifExp test body orelse one two three =>
      rw [pyEval] at meant
      obtain ⟨condition, atTest, meant⟩ := bind_eq_ok_iff.mp meant
      rw [plain, Bool.and_eq_true, atTest] at plainly
      obtain ⟨testPlain, plainly⟩ := plainly
      obtain ⟨x, testGives, truth, -⟩ :=
        one (passes.child List.mem_cons_self) testPlain atTest
      rw [evalNode, testGives]
      cases taken : condition.truth with
      | true =>
          simp only [taken, if_true] at meant plainly
          obtain ⟨result, gives, agrees⟩ :=
            two (passes.child (List.mem_cons_of_mem _ List.mem_cons_self)) plainly meant
          exact ⟨result, (if_pos (truth.trans taken)).trans gives, agrees⟩
      | false =>
          simp only [taken, Bool.false_eq_true, if_false] at meant plainly
          obtain ⟨result, gives, agrees⟩ :=
            three (passes.child (List.mem_cons_of_mem _ (List.mem_cons_of_mem _
              List.mem_cons_self))) plainly meant
          have refused : ¬x.truth = true := by
            rw [truth, taken]
            exact Bool.false_ne_true
          exact ⟨result, (if_neg refused).trans gives, agrees⟩
  | call func args keywords _ all =>
      obtain ⟨id, function, rfl, found⟩ := passes.call
      rw [plain] at plainly
      rw [pyEval, pyEval, known id function found] at meant
      obtain ⟨callee, called, meant⟩ := bind_eq_ok_iff.mp meant
      cases called
      obtain ⟨values, evaluated, meant⟩ := bind_eq_ok_iff.mp meant
      have each : ∀ node ∈ args, ∀ value, plain lib names true node = true →
          pyEval lib names node = .ok value → evalNode lib scope node = .ok value := by
        intro node member value nodePlain gives
        obtain ⟨y, nodeGives, -, alike⟩ :=
          all node member (passes.child (mem_children_arg member)) nodePlain gives
        rw [nodeGives, alike rfl]
      refine ⟨value, ?_, .rfl⟩
      rw [evalNode, found]
      change (evalNodes lib scope args >>= _) = _
      rw [evalNodes_of_plain each plainly evaluated]
      split at meant
      · exact congrArg calling (mapError_eq_ok meant)
      · cases meant
  | other className children => cases meant

end Simulation

/-- For every accepted expression and every numeric scope: where no short circuit of
Python skips an operand that would raise or gives a value, other than a boolean, that
is used, the evaluator means what Python means. -/
theorem MetricExpression.means_python (lib : Libm) (expr : MetricExpression)
    (scope : Dict String PyValue) (numeric : NumericScope expr scope)
    (plainly : ∀ value, pyEval lib (pythonNames scope) expr.tree = .ok value →
      plain lib (pythonNames scope) value.isNumber expr.tree = true) :
    MeansPython lib expr scope := by
  have known : ∀ id function, safeFunction? id = some function →
      pythonNames scope id = some (.func function) := by
    intro id function found
    rw [pythonNames]
    cases stored : scope.get? id with
    | none => exact congrArg (Option.map PyValue.func) found
    | some value =>
        have key : id ∈ scope.keys :=
          (scope.get?_isSome_iff).mp (Option.isSome_of_eq_some stored)
        have unshadowed := numeric.unshadowed id key
        rw [found] at unshadowed
        cases unshadowed
  have defined : ∀ id value, pythonNames scope id = some value →
      evalName scope id = .ok value := by
    intro id value named
    rw [evalName]
    cases found : safeFunction? id with
    | some function =>
        rw [known id function found] at named
        cases named
        rfl
    | none =>
        rw [pythonNames] at named
        cases stored : scope.get? id with
        | none =>
            rw [stored, found] at named
            cases named
        | some other =>
            rw [stored] at named
            cases named
            rfl
  intro value meant
  obtain ⟨result, gives, -, same⟩ :=
    evalNode_of_plain known defined expr.passes (plainly value meant) meant
  have evaluated : expr.evaluate lib scope = .ok result := by
    rw [evaluate, gives]
    rfl
  refine ⟨fun number => ?_, result, evaluated⟩
  rw [evaluated, same number]

/-- `trades > 0 and net_pnl / trades > 5` -/
def guardedMean : MetricExpression where
  source := "trades > 0 and net_pnl / trades > 5"
  tree :=
    .boolOp .and
      [.compare (.name "trades") [.gt] [.constant (.int 0)],
        .compare (.binOp (.name "net_pnl") .div (.name "trades")) [.gt]
          [.constant (.int 5)]]
  accepted := by decide

/-- The metrics that it reads. -/
def meanScope (net : ℚ) (trades : ℤ) : Dict String PyValue :=
  ⟨[("net_pnl", .float (.fin net)), ("trades", .int trades)], by
    change ["net_pnl", "trades"].Nodup
    decide⟩

theorem numericScope_guardedMean (net : ℚ) (trades : ℤ) :
    NumericScope guardedMean (meanScope net trades) where
  numeric := List.forall_mem_cons.mpr
    ⟨rfl, List.forall_mem_singleton.mpr rfl⟩
  defined := by
    change ∀ name ∈ guardedMean.freeVariables, name ∈ ["net_pnl", "trades"]
    decide
  unshadowed := by
    change ∀ name ∈ ["net_pnl", "trades"], safeFunction? name = none
    decide

theorem guardedMean_means_python :
    MeansPython .least guardedMean (meanScope 90 4) :=
  guardedMean.means_python .least _ (numericScope_guardedMean 90 4) fun value _ => by
    cases value.isNumber <;> decide +kernel

/-- Without trades Python answers `False`; the evaluator divides by zero. -/
theorem MetricExpression.guard_is_no_guard :
    ¬∀ lib (expr : MetricExpression) scope, NumericScope expr scope →
      MeansPython lib expr scope := by
  intro claimed
  have means := claimed .least guardedMean (meanScope 0 0) (numericScope_guardedMean 0 0)
  obtain ⟨result, gives⟩ := (means (.bool false) rfl).2
  have fails : guardedMean.evaluate .least (meanScope 0 0) =
      .error (.dsl (.divisionByZero guardedMean.source)) := by
    decide +kernel
  rw [fails] at gives
  cases gives

end StingerFx
