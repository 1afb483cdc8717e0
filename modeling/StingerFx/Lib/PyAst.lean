/-
Module: StingerFx.Lib.PyAst
Layer: Lib
Purpose: Syntax trees of Python expressions. The classes that work on numbers are
  spelled out; any other class has a name and children. A walk over a tree visits
  operators and contexts as nodes too.
Trusted boundary: human-reviewed model of the `ast` module
Main exports: PyConstant, PyConstant.value, PyNode, PyNode.induct, PyItem, PyItem.children,
  PyItem.className, PyItem.walk, PyItem.Within, PyItem.mem_walk
-/
import StingerFx.Lib.PyValue

namespace Lib

inductive PyConstant where
  | int (n : ℤ)
  | float (x : PyFloat)
  | complex (re im : PyFloat)
  | bool (b : Bool)
  | none
  | str (text : String)
  | bytes
  | ellipsis
deriving Repr, DecidableEq

/-- The object that a constant stands for. -/
def PyConstant.value : PyConstant → PyValue
  | .int n => .int n
  | .float x => .float x
  | .bool b => .bool b
  | .none => .none
  | .complex re im => .complex re im
  | .str _ => .other "str"
  | .bytes => .other "bytes"
  | .ellipsis => .other "ellipsis"

inductive BinOperator where
  | add
  | sub
  | mult
  | matMult
  | div
  | mod
  | pow
  | lShift
  | rShift
  | bitOr
  | bitXor
  | bitAnd
  | floorDiv
deriving Repr, DecidableEq

inductive UnaryOperator where
  | invert
  | not
  | uAdd
  | uSub
deriving Repr, DecidableEq

inductive BoolOperator where
  | and
  | or
deriving Repr, DecidableEq

inductive CmpOperator where
  | eq
  | notEq
  | lt
  | ltE
  | gt
  | gtE
  | is
  | isNot
  | in
  | notIn
deriving Repr, DecidableEq

inductive PyNode where
  | constant (value : PyConstant)
  | name (id : String)
  | binOp (left : PyNode) (op : BinOperator) (right : PyNode)
  | unaryOp (op : UnaryOperator) (operand : PyNode)
  | boolOp (op : BoolOperator) (values : List PyNode)
  | compare (left : PyNode) (ops : List CmpOperator) (comparators : List PyNode)
  | ifExp (test body orelse : PyNode)
  | call (func : PyNode) (args keywords : List PyNode)
  | other (className : String) (children : List PyNode)
deriving Repr

/-- Induction over trees, with the hypothesis for every child. -/
@[elab_as_elim] theorem PyNode.induct {P : PyNode → Prop}
    (constant : ∀ value, P (.constant value)) (name : ∀ id, P (.name id))
    (binOp : ∀ left op right, P left → P right → P (.binOp left op right))
    (unaryOp : ∀ op operand, P operand → P (.unaryOp op operand))
    (boolOp : ∀ op values, (∀ value ∈ values, P value) → P (.boolOp op values))
    (compare : ∀ left ops comparators, P left →
      (∀ comparator ∈ comparators, P comparator) → P (.compare left ops comparators))
    (ifExp : ∀ test body orelse, P test → P body → P orelse →
      P (.ifExp test body orelse))
    (call : ∀ func args keywords, P func → (∀ arg ∈ args, P arg) →
      P (.call func args keywords))
    (other : ∀ className children, P (.other className children)) (tree : PyNode) :
    P tree := by
  apply @PyNode.rec P (fun nodes => ∀ node ∈ nodes, P node)
  · exact constant
  · exact name
  · exact binOp
  · exact unaryOp
  · exact boolOp
  · exact compare
  · exact ifExp
  · exact fun func args keywords one all _ => call func args keywords one all
  · exact fun className children _ => other className children
  · exact List.forall_mem_nil P
  · exact fun _ _ one all => List.forall_mem_cons.mpr ⟨one, all⟩

/-! ### Walks -/

/-- What a walk visits. -/
inductive PyItem where
  | expression (body : PyNode)
  | node (tree : PyNode)
  | binOperator (op : BinOperator)
  | unaryOperator (op : UnaryOperator)
  | boolOperator (op : BoolOperator)
  | cmpOperator (op : CmpOperator)
  /-- the context of a name -/
  | load
deriving Repr

namespace PyItem

/-- `iter_child_nodes`. -/
def children : PyItem → List PyItem
  | .expression body => [.node body]
  | .node (.constant _) => []
  | .node (.name _) => [.load]
  | .node (.binOp left op right) => [.node left, .binOperator op, .node right]
  | .node (.unaryOp op operand) => [.unaryOperator op, .node operand]
  | .node (.boolOp op values) => .boolOperator op :: values.map .node
  | .node (.compare left ops comparators) =>
      .node left :: ops.map .cmpOperator ++ comparators.map .node
  | .node (.ifExp test body orelse) => [.node test, .node body, .node orelse]
  | .node (.call func args keywords) =>
      .node func :: args.map .node ++ keywords.map .node
  | .node (.other _ children) => children.map .node
  | .binOperator _ | .unaryOperator _ | .boolOperator _ | .cmpOperator _ | .load => []

/-- `type(node).__name__`. -/
def className : PyItem → String
  | .expression _ => "Expression"
  | .node (.constant _) => "Constant"
  | .node (.name _) => "Name"
  | .node (.binOp _ _ _) => "BinOp"
  | .node (.unaryOp _ _) => "UnaryOp"
  | .node (.boolOp _ _) => "BoolOp"
  | .node (.compare _ _ _) => "Compare"
  | .node (.ifExp _ _ _) => "IfExp"
  | .node (.call _ _ _) => "Call"
  | .node (.other className _) => className
  | .binOperator .add => "Add"
  | .binOperator .sub => "Sub"
  | .binOperator .mult => "Mult"
  | .binOperator .matMult => "MatMult"
  | .binOperator .div => "Div"
  | .binOperator .mod => "Mod"
  | .binOperator .pow => "Pow"
  | .binOperator .lShift => "LShift"
  | .binOperator .rShift => "RShift"
  | .binOperator .bitOr => "BitOr"
  | .binOperator .bitXor => "BitXor"
  | .binOperator .bitAnd => "BitAnd"
  | .binOperator .floorDiv => "FloorDiv"
  | .unaryOperator .invert => "Invert"
  | .unaryOperator .not => "Not"
  | .unaryOperator .uAdd => "UAdd"
  | .unaryOperator .uSub => "USub"
  | .boolOperator .and => "And"
  | .boolOperator .or => "Or"
  | .cmpOperator .eq => "Eq"
  | .cmpOperator .notEq => "NotEq"
  | .cmpOperator .lt => "Lt"
  | .cmpOperator .ltE => "LtE"
  | .cmpOperator .gt => "Gt"
  | .cmpOperator .gtE => "GtE"
  | .cmpOperator .is => "Is"
  | .cmpOperator .isNot => "IsNot"
  | .cmpOperator .in => "In"
  | .cmpOperator .notIn => "NotIn"
  | .load => "Load"

end PyItem

mutual

/-- Everything that a walk from a node visits, counted. -/
def PyNode.size : PyNode → Nat
  | .constant _ => 1
  | .name _ => 2
  | .binOp left _ right => left.size + right.size + 2
  | .unaryOp _ operand => operand.size + 2
  | .boolOp _ values => PyNode.sizes values + 2
  | .compare left ops comparators => left.size + ops.length + PyNode.sizes comparators + 1
  | .ifExp test body orelse => test.size + body.size + orelse.size + 1
  | .call func args keywords => func.size + PyNode.sizes args + PyNode.sizes keywords + 1
  | .other _ children => PyNode.sizes children + 1

def PyNode.sizes : List PyNode → Nat
  | [] => 0
  | first :: rest => first.size + PyNode.sizes rest

end

namespace PyItem

def size : PyItem → Nat
  | .expression body => body.size + 1
  | .node tree => tree.size
  | .binOperator _ | .unaryOperator _ | .boolOperator _ | .cmpOperator _ | .load => 1

/-- `walk`, with the queue of what is still to visit; the fuel counts visits. -/
def walkQueue : Nat → List PyItem → List PyItem
  | 0, _ => []
  | _ + 1, [] => []
  | fuel + 1, item :: queue => item :: walkQueue fuel (queue ++ item.children)

def walk (item : PyItem) : List PyItem := walkQueue item.size [item]

/-- An item of the tree below another one, or this one itself. -/
inductive Within : PyItem → PyItem → Prop where
  | refl (item : PyItem) : Within item item
  | child {inner outer child : PyItem} (below : child ∈ outer.children)
      (deeper : Within inner child) : Within inner outer

theorem sum_size_nodes (nodes : List PyNode) :
    ((nodes.map PyItem.node).map size).sum = PyNode.sizes nodes := by
  induction nodes with
  | nil => rfl
  | cons first rest ih =>
      rw [List.map_cons, List.map_cons, List.sum_cons, ih]
      rfl

theorem sum_size_cmpOperators (ops : List CmpOperator) :
    ((ops.map PyItem.cmpOperator).map size).sum = ops.length := by
  induction ops with
  | nil => rfl
  | cons first rest ih =>
      rw [List.map_cons, List.map_cons, List.sum_cons, ih, List.length_cons]
      exact Nat.add_comm 1 rest.length

/-- An item is one more than what is below it. -/
theorem size_eq (item : PyItem) : item.size = (item.children.map size).sum + 1 := by
  cases item with
  | node tree =>
      cases tree with
      | constant value => rfl
      | name id => rfl
      | binOp left op right =>
          simp only [size, PyNode.size, children, List.map_cons, List.sum_cons,
            List.map_nil, List.sum_nil]
          omega
      | unaryOp op operand =>
          simp only [size, PyNode.size, children, List.map_cons, List.sum_cons,
            List.map_nil, List.sum_nil]
          omega
      | boolOp op values =>
          simp only [size, PyNode.size, children, List.map_cons, List.sum_cons,
            sum_size_nodes]
          omega
      | compare left ops comparators =>
          simp only [size, PyNode.size, children, List.map_cons, List.sum_cons,
            List.cons_append, List.map_append, List.sum_append, sum_size_nodes,
            sum_size_cmpOperators]
          omega
      | ifExp test body orelse =>
          simp only [size, PyNode.size, children, List.map_cons, List.sum_cons,
            List.map_nil, List.sum_nil]
          omega
      | call func args keywords =>
          simp only [size, PyNode.size, children, List.map_cons, List.sum_cons,
            List.cons_append, List.map_append, List.sum_append, sum_size_nodes]
          omega
      | other className children =>
          simp only [size, PyNode.size, PyItem.children, sum_size_nodes]
  | expression body => rfl
  | binOperator op => rfl
  | unaryOperator op => rfl
  | boolOperator op => rfl
  | cmpOperator op => rfl
  | load => rfl

theorem mem_walkQueue {inner outer : PyItem} (within : Within inner outer) (fuel : Nat)
    (queue : List PyItem) (waiting : outer ∈ queue)
    (enough : (queue.map size).sum ≤ fuel) : inner ∈ walkQueue fuel queue := by
  induction fuel generalizing outer queue with
  | zero =>
      -- an item that waits needs fuel
      have part := List.single_le_sum (fun _ _ => Nat.zero_le _) _
        (List.mem_map_of_mem (f := size) waiting)
      have one := size_eq outer
      omega
  | succ fuel ih =>
      cases queue with
      | nil => cases waiting
      | cons first rest =>
          have less : ((rest ++ first.children).map size).sum ≤ fuel := by
            have one := size_eq first
            rw [List.map_cons, List.sum_cons] at enough
            rw [List.map_append, List.sum_append]
            omega
          rw [walkQueue]
          rcases List.mem_cons.mp waiting with rfl | later
          · cases within with
            | refl => exact List.mem_cons_self
            | child below deeper =>
                exact List.mem_cons_of_mem _
                  (ih deeper _ (List.mem_append_right _ below) less)
          · exact List.mem_cons_of_mem _
              (ih within _ (List.mem_append_left _ later) less)

/-- A walk visits the whole tree. -/
theorem mem_walk {inner outer : PyItem} (within : Within inner outer) :
    inner ∈ outer.walk := by
  refine mem_walkQueue within _ _ (List.mem_singleton.mpr rfl) ?_
  rw [List.map_singleton, List.sum_singleton]

end PyItem

end Lib
