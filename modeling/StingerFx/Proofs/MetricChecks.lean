/-
Module: StingerFx.Proofs.MetricChecks
Layer: Proofs
Purpose: The check of a metric expression is complete for its evaluator. An accepted
  tree is evaluated without any of the errors that are left for trees that are not,
  and its free variables are all that an evaluation can read.
Trusted boundary: none (fully proved)
Main exports: Passes, Reads, Foreseen, evalNode_foreseen, evalNode_agree,
  MetricExpression.check_is_complete
-/
import StingerFx.Backtest.MetricDsl

namespace StingerFx

open Lib

/-! ### What the check looked at -/

/-- The check accepts everything in a tree. -/
def Passes (tree : PyNode) : Prop :=
  ∀ item, PyItem.Within item (.node tree) → validateItem item = .ok ()

/-- A name in a tree that is no whitelisted function. -/
def Reads (tree : PyNode) (name : String) : Prop :=
  PyItem.Within (.node (.name name)) (.node tree) ∧ safeFunction? name = none

section Trees

variable {tree inner : PyNode} {name : String}

theorem validateItems_ok {items : List PyItem} (accepted : validateItems items = .ok ()) :
    ∀ item ∈ items, validateItem item = .ok () := by
  induction items with
  | nil => exact List.forall_mem_nil _
  | cons first rest ih =>
      simp only [validateItems] at accepted
      split at accepted
      · cases accepted
      · rename_i here
        exact List.forall_mem_cons.mpr ⟨here, ih accepted⟩

theorem MetricExpression.passes (expr : MetricExpression) : Passes expr.tree := by
  intro item within
  apply validateItems_ok expr.accepted
  exact PyItem.mem_walk (.child (List.mem_singleton.mpr rfl) within)

theorem MetricExpression.mem_freeVariables {expr : MetricExpression}
    (reads : Reads expr.tree name) : name ∈ expr.freeVariables := by
  have visited : PyItem.node (.name name) ∈ (PyItem.expression expr.tree).walk :=
    PyItem.mem_walk (.child (List.mem_singleton.mpr rfl) reads.1)
  exact List.mem_filterMap.mpr ⟨_, visited, if_pos reads.2⟩

theorem Passes.child (passes : Passes tree)
    (below : PyItem.node inner ∈ (PyItem.node tree).children) : Passes inner :=
  fun item within => passes item (.child below within)

theorem Passes.here (passes : Passes tree) : validateItem (.node tree) = .ok () :=
  passes _ (.refl _)

theorem Reads.child (below : PyItem.node inner ∈ (PyItem.node tree).children)
    (reads : Reads inner name) : Reads tree name :=
  ⟨.child below reads.1, reads.2⟩

/-- An operator of an accepted tree is in its table. -/
theorem Passes.allowed {item : PyItem} (passes : Passes tree)
    (below : item ∈ (PyItem.node tree).children) : isAllowed item = true := by
  have accepted := passes item (.child below (.refl _))
  by_contra refused
  unfold validateItem at accepted
  rw [if_neg refused] at accepted
  cases accepted

/-- A call of an accepted tree is one of a whitelisted function. -/
theorem Passes.call {func : PyNode} {args keywords : List PyNode}
    (passes : Passes (.call func args keywords)) :
    ∃ id function, func = .name id ∧ safeFunction? id = some function := by
  have accepted := passes.here
  cases func with
  | name id =>
      cases found : safeFunction? id with
      | some function => exact ⟨id, function, rfl, found⟩
      | none =>
          simp only [validateItem, isAllowed, found, if_true] at accepted
          cases accepted
  | constant value => cases accepted
  | binOp left op right => cases accepted
  | unaryOp op operand => cases accepted
  | boolOp op values => cases accepted
  | compare left ops comparators => cases accepted
  | ifExp test body orelse => cases accepted
  | call func innerArgs innerKeywords => cases accepted
  | other className children => cases accepted

theorem mem_children_boolOp {op : BoolOperator} {values : List PyNode}
    (member : inner ∈ values) :
    PyItem.node inner ∈ (PyItem.node (.boolOp op values)).children :=
  List.mem_cons_of_mem _ (List.mem_map_of_mem member)

theorem mem_children_comparator {left : PyNode} {ops : List CmpOperator}
    {comparators : List PyNode} (member : inner ∈ comparators) :
    PyItem.node inner ∈ (PyItem.node (.compare left ops comparators)).children :=
  List.mem_cons_of_mem _ (List.mem_append_right _ (List.mem_map_of_mem member))

theorem mem_children_cmpOperator {left : PyNode} {ops : List CmpOperator}
    {comparators : List PyNode} {op : CmpOperator} (member : op ∈ ops) :
    PyItem.cmpOperator op ∈ (PyItem.node (.compare left ops comparators)).children :=
  List.mem_cons_of_mem _ (List.mem_append_left _ (List.mem_map_of_mem member))

theorem mem_children_arg {func : PyNode} {args keywords : List PyNode}
    (member : inner ∈ args) :
    PyItem.node inner ∈ (PyItem.node (.call func args keywords)).children :=
  List.mem_cons_of_mem _ (List.mem_append_left _ (List.mem_map_of_mem member))

end Trees

/-! ### Errors that are foreseen -/

/-- An outcome is a value, an unknown name of some, or an exception of an operator or a
function. -/
def Foreseen (names : String → Prop) {α : Type} (outcome : Except EvalError α) : Prop :=
  ∀ error, outcome = .error error →
    (∃ name, names name ∧ error = .key name) ∨ ∃ cause, error = .python cause

section Outcomes

variable {names wider : String → Prop} {α β : Type}

theorem Foreseen.ok (value : α) : Foreseen names (.ok value) :=
  fun _ same => by cases same

theorem Foreseen.python (cause : PyError) :
    Foreseen names (.error (.python cause) : Except EvalError α) := by
  intro error same
  cases same
  exact .inr ⟨cause, rfl⟩

theorem Foreseen.calling (outcome : Except PyError α) :
    Foreseen names (calling outcome) := by
  cases outcome with
  | ok value => exact .ok value
  | error cause => exact .python cause

theorem Foreseen.mono {outcome : Except EvalError α} (foreseen : Foreseen names outcome)
    (wide : ∀ name, names name → wider name) : Foreseen wider outcome := by
  intro error same
  rcases foreseen error same with ⟨name, known, rfl⟩ | python
  · exact .inl ⟨name, wide name known, rfl⟩
  · exact .inr python

theorem Foreseen.bind {outcome : Except EvalError α} {next : α → Except EvalError β}
    (first : Foreseen names outcome) (later : ∀ value, Foreseen names (next value)) :
    Foreseen names (outcome >>= next) := by
  cases outcome with
  | ok value => exact later value
  | error cause =>
      intro error same
      cases same
      exact first cause rfl

end Outcomes

section Evaluation

variable (lib : Libm) (scope : Dict String PyValue)

theorem evalNodes_foreseen {names : String → Prop} {nodes : List PyNode}
    (each : ∀ node ∈ nodes, Foreseen names (evalNode lib scope node)) :
    Foreseen names (evalNodes lib scope nodes) := by
  induction nodes with
  | nil => exact .ok []
  | cons first rest ih =>
      obtain ⟨here, later⟩ := List.forall_mem_cons.mp each
      rw [evalNodes]
      exact here.bind fun value => (ih later).bind fun values => .ok _

theorem evalChain_foreseen {names : String → Prop} {ops : List CmpOperator}
    {comparators : List PyNode}
    (allowed : ∀ op ∈ ops, isAllowed (.cmpOperator op) = true)
    (each : ∀ node ∈ comparators, Foreseen names (evalNode lib scope node))
    (current : PyValue) : Foreseen names (evalChain lib scope current ops comparators) := by
  induction comparators generalizing current ops with
  | nil =>
      cases ops with
      | nil => exact .ok _
      | cons op ops => exact .python _
  | cons first rest ih =>
      cases ops with
      | nil => exact .python _
      | cons op ops =>
          obtain ⟨here, later⟩ := List.forall_mem_cons.mp each
          obtain ⟨known, others⟩ := List.forall_mem_cons.mp allowed
          obtain ⟨function, found⟩ := Option.isSome_iff_exists.mp known
          rw [evalChain]
          apply here.bind
          intro right
          apply Foreseen.bind
          · rw [applyComparator, found]
            exact .calling _
          · intro holds
            split
            · exact ih others later right
            · exact .ok _

/-- The evaluator handles every accepted tree. -/
theorem evalNode_foreseen {tree : PyNode} (passes : Passes tree) :
    Foreseen (Reads tree) (evalNode lib scope tree) := by
  induction tree using PyNode.induct with
  | constant value => exact .ok _
  | name id =>
      rw [evalNode, evalName]
      cases safe : safeFunction? id with
      | some function => exact .ok _
      | none =>
          cases stored : scope.get? id with
          | some value => exact .ok _
          | none =>
              intro error same
              cases same
              exact .inl ⟨id, ⟨.refl _, safe⟩, rfl⟩
  | binOp left op right one two =>
      have inLeft : PyItem.node left ∈ (PyItem.node (.binOp left op right)).children :=
        List.mem_cons_self
      have inRight : PyItem.node right ∈ (PyItem.node (.binOp left op right)).children :=
        List.mem_cons_of_mem _ (List.mem_cons_of_mem _ List.mem_cons_self)
      have known : isAllowed (.binOperator op) = true :=
        passes.allowed (List.mem_cons_of_mem _ List.mem_cons_self)
      obtain ⟨function, found⟩ := Option.isSome_iff_exists.mp known
      rw [evalNode]
      apply ((one (passes.child inLeft)).mono fun _ => Reads.child inLeft).bind
      intro a
      apply ((two (passes.child inRight)).mono fun _ => Reads.child inRight).bind
      intro b
      rw [applyBinary, found]
      exact .calling _
  | unaryOp op operand one =>
      have inside : PyItem.node operand ∈ (PyItem.node (.unaryOp op operand)).children :=
        List.mem_cons_of_mem _ List.mem_cons_self
      have known : isAllowed (.unaryOperator op) = true := passes.allowed List.mem_cons_self
      obtain ⟨function, found⟩ := Option.isSome_iff_exists.mp known
      rw [evalNode]
      apply ((one (passes.child inside)).mono fun _ => Reads.child inside).bind
      intro a
      rw [applyUnary, found]
      exact .calling _
  | boolOp op values all =>
      have each : ∀ node ∈ values,
          Foreseen (Reads (.boolOp op values)) (evalNode lib scope node) :=
        fun node member =>
          (all node member (passes.child (mem_children_boolOp member))).mono
            fun _ => Reads.child (mem_children_boolOp member)
      rw [evalNode]
      exact (evalNodes_foreseen lib scope each).bind fun evaluated => .ok _
  | compare left ops comparators one all =>
      have inLeft : PyItem.node left ∈
          (PyItem.node (.compare left ops comparators)).children := List.mem_cons_self
      have each : ∀ node ∈ comparators,
          Foreseen (Reads (.compare left ops comparators)) (evalNode lib scope node) :=
        fun node member =>
          (all node member (passes.child (mem_children_comparator member))).mono
            fun _ => Reads.child (mem_children_comparator member)
      have allowed : ∀ op ∈ ops, isAllowed (.cmpOperator op) = true :=
        fun op member => passes.allowed (mem_children_cmpOperator member)
      rw [evalNode]
      apply ((one (passes.child inLeft)).mono fun _ => Reads.child inLeft).bind
      exact evalChain_foreseen lib scope allowed each
  | ifExp test body orelse one two three =>
      have inTest : PyItem.node test ∈ (PyItem.node (.ifExp test body orelse)).children :=
        List.mem_cons_self
      have inBody : PyItem.node body ∈ (PyItem.node (.ifExp test body orelse)).children :=
        List.mem_cons_of_mem _ List.mem_cons_self
      have inElse : PyItem.node orelse ∈
          (PyItem.node (.ifExp test body orelse)).children :=
        List.mem_cons_of_mem _ (List.mem_cons_of_mem _ List.mem_cons_self)
      rw [evalNode]
      apply ((one (passes.child inTest)).mono fun _ => Reads.child inTest).bind
      intro condition
      split
      · exact (two (passes.child inBody)).mono fun _ => Reads.child inBody
      · exact (three (passes.child inElse)).mono fun _ => Reads.child inElse
  | call func args keywords _ all =>
      obtain ⟨id, function, rfl, found⟩ := passes.call
      have each : ∀ node ∈ args,
          Foreseen (Reads (.call (.name id) args keywords)) (evalNode lib scope node) :=
        fun node member =>
          (all node member (passes.child (mem_children_arg member))).mono
            fun _ => Reads.child (mem_children_arg member)
      rw [evalNode, found]
      exact (evalNodes_foreseen lib scope each).bind fun evaluated => .calling _
  | other className children =>
      have accepted := passes.here
      cases accepted

end Evaluation

/-! ### What an evaluation reads -/

section Agreement

variable (lib : Libm) {one two : Dict String PyValue}

theorem evalNodes_agree {nodes : List PyNode}
    (each : ∀ node ∈ nodes, evalNode lib one node = evalNode lib two node) :
    evalNodes lib one nodes = evalNodes lib two nodes := by
  induction nodes with
  | nil => rfl
  | cons first rest ih =>
      obtain ⟨here, later⟩ := List.forall_mem_cons.mp each
      rw [evalNodes, evalNodes, here, ih later]

theorem evalChain_agree {comparators : List PyNode}
    (each : ∀ node ∈ comparators, evalNode lib one node = evalNode lib two node)
    (current : PyValue) (ops : List CmpOperator) :
    evalChain lib one current ops comparators =
      evalChain lib two current ops comparators := by
  induction comparators generalizing current ops with
  | nil => cases ops <;> rfl
  | cons first rest ih =>
      obtain ⟨here, later⟩ := List.forall_mem_cons.mp each
      cases ops with
      | nil => rfl
      | cons op ops =>
          rw [evalChain, evalChain, here]
          congr 1
          funext right
          congr 1
          funext holds
          rw [ih later right ops]

/-- Scopes that agree on what a tree reads give the same outcome. -/
theorem evalNode_agree {tree : PyNode}
    (agree : ∀ name, Reads tree name → one.get? name = two.get? name) :
    evalNode lib one tree = evalNode lib two tree := by
  induction tree using PyNode.induct with
  | constant value => rfl
  | name id =>
      rw [evalNode, evalNode, evalName, evalName]
      cases safe : safeFunction? id with
      | some function => rfl
      | none => rw [agree id ⟨.refl _, safe⟩]
  | binOp left op right inLeft inRight =>
      have atLeft := inLeft fun name reads =>
        agree name (reads.child List.mem_cons_self)
      have atRight := inRight fun name reads =>
        agree name (reads.child
          (List.mem_cons_of_mem _ (List.mem_cons_of_mem _ List.mem_cons_self)))
      rw [evalNode, evalNode, atLeft, atRight]
  | unaryOp op operand inside =>
      have below := inside fun name reads =>
        agree name (reads.child (List.mem_cons_of_mem _ List.mem_cons_self))
      rw [evalNode, evalNode, below]
  | boolOp op values all =>
      have each := evalNodes_agree lib fun node member =>
        all node member fun name reads =>
          agree name (reads.child (mem_children_boolOp member))
      rw [evalNode, evalNode, each]
  | compare left ops comparators inLeft all =>
      have atLeft := inLeft fun name reads =>
        agree name (reads.child List.mem_cons_self)
      have each : ∀ node ∈ comparators, evalNode lib one node = evalNode lib two node :=
        fun node member => all node member fun name reads =>
          agree name (reads.child (mem_children_comparator member))
      rw [evalNode, evalNode, atLeft]
      congr 1
      funext current
      exact evalChain_agree lib each current ops
  | ifExp test body orelse inTest inBody inElse =>
      have atTest := inTest fun name reads =>
        agree name (reads.child List.mem_cons_self)
      have atBody := inBody fun name reads =>
        agree name (reads.child (List.mem_cons_of_mem _ List.mem_cons_self))
      have atElse := inElse fun name reads =>
        agree name (reads.child
          (List.mem_cons_of_mem _ (List.mem_cons_of_mem _ List.mem_cons_self)))
      rw [evalNode, evalNode, atTest, atBody, atElse]
  | call func args keywords _ all =>
      have each := evalNodes_agree lib fun node member =>
        all node member fun name reads =>
          agree name (reads.child (mem_children_arg member))
      cases func with
      | name id => rw [evalNode, evalNode, each]
      | constant value => rfl
      | binOp left op right => rfl
      | unaryOp op operand => rfl
      | boolOp op values => rfl
      | compare left ops comparators => rfl
      | ifExp test body orelse => rfl
      | call func innerArgs innerKeywords => rfl
      | other className children => rfl
  | other className children => rfl

end Agreement

/-- For every accepted expression and two scopes that agree on its free variables:
evaluation only fails by the name of a free variable or by an exception of an operator
or a function, and its outcome is the same in both. -/
theorem MetricExpression.check_is_complete (lib : Libm) (expr : MetricExpression)
    (one two : Dict String PyValue)
    (agree : ∀ name ∈ expr.freeVariables, one.get? name = two.get? name) :
    Foreseen (· ∈ expr.freeVariables) (evalNode lib one expr.tree) ∧
      evalNode lib one expr.tree = evalNode lib two expr.tree ∧
      expr.evaluate lib one = expr.evaluate lib two := by
  have same : evalNode lib one expr.tree = evalNode lib two expr.tree :=
    evalNode_agree lib fun name reads => agree name (mem_freeVariables reads)
  refine ⟨?_, same, ?_⟩
  · exact (evalNode_foreseen lib one expr.passes).mono fun _ => mem_freeVariables
  · rw [evaluate, evaluate, same]

/-- `net_pnl / trades if trades > 0 else abs(net_pnl)` -/
def perTrade : MetricExpression where
  source := "net_pnl / trades if trades > 0 else abs(net_pnl)"
  tree :=
    .ifExp (.compare (.name "trades") [.gt] [.constant (.int 0)])
      (.binOp (.name "net_pnl") .div (.name "trades"))
      (.call (.name "abs") [.name "net_pnl"] [])
  accepted := by decide

theorem perTrade_checked :
    let one : Dict String PyValue :=
      ⟨[("net_pnl", .float (.fin 90)), ("trades", .int 4)], by decide⟩
    let two := one.set "sharpe" .none
    Foreseen (· ∈ perTrade.freeVariables) (evalNode .least one perTrade.tree) ∧
      evalNode .least one perTrade.tree = evalNode .least two perTrade.tree ∧
      perTrade.evaluate .least one = perTrade.evaluate .least two :=
  perTrade.check_is_complete .least _ _ (by decide)

end StingerFx
