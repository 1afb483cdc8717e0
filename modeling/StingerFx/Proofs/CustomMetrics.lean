/-
Module: StingerFx.Proofs.CustomMetrics
Layer: Proofs
Purpose: The custom metrics of a cell against the batch rule. A sweep evaluates each
  expression on the dictionary that it writes; the batch evaluates all of them on the
  base metrics. They agree where no expression comes to the name of an earlier entry.
Trusted boundary: none (fully proved)
Main exports: Reaches, evalNode_eq_of_reaches, mergeCustoms, evaluateEntries_eq,
  ReadsOnlyBase, CustomMetrics.sweep_matches_batch, CustomMetrics.chains_exist
-/
import StingerFx.Backtest.Sweep
import StingerFx.Proofs.MetricContainment

namespace StingerFx

open Lib

/-! ### Names that an evaluation comes to -/

section Reads

variable (lib : Libm) (scope : Dict String PyValue) (name : String)

mutual

/-- An evaluation reads a name. -/
def Reaches : PyNode → Prop
  | .constant _ | .other _ _ => False
  | .name id => id = name ∧ safeFunction? id = none
  | .binOp left _ right => Reaches left ∨ ∃ a, Gives lib scope left a ∧ Reaches right
  | .unaryOp _ operand => Reaches operand
  | .boolOp _ values => ReachesIn values
  | .compare left ops comparators =>
      Reaches left ∨ ∃ current, Gives lib scope left current ∧
        ReachesChain current ops comparators
  | .ifExp test body orelse =>
      Reaches test ∨ ∃ condition, Gives lib scope test condition ∧
        if condition.truth then Reaches body else Reaches orelse
  | .call _ args _ => ReachesIn args

def ReachesIn : List PyNode → Prop
  | [] => False
  | first :: rest => Reaches first ∨ ∃ value, Gives lib scope first value ∧ ReachesIn rest

def ReachesChain (current : PyValue) : List CmpOperator → List PyNode → Prop
  | op :: ops, comparator :: comparators =>
      Reaches comparator ∨ ∃ right, Gives lib scope comparator right ∧
        ∃ function, cmpOps op = some function ∧
          compare function current right = .ok true ∧ ReachesChain right ops comparators
  | _, _ => False

end

end Reads

section Agreement

variable {lib : Libm} {base other : Dict String PyValue}

/-- Two steps that agree, as long as the first has a value. -/
theorem bind_congr_ok {ε α β : Type} {one two : Except ε α} {next later : α → Except ε β}
    (first : one = two) (second : ∀ a, one = .ok a → next a = later a) :
    (one >>= next) = (two >>= later) := by
  subst first
  cases one with
  | ok a => exact second a rfl
  | error cause => rfl

theorem evalNodes_eq_of_reaches {nodes : List PyNode}
    (each : ∀ node ∈ nodes,
      (∀ name, Reaches lib base name node → base.get? name = other.get? name) →
        evalNode lib base node = evalNode lib other node)
    (agree : ∀ name, ReachesIn lib base name nodes → base.get? name = other.get? name) :
    evalNodes lib base nodes = evalNodes lib other nodes := by
  induction nodes with
  | nil => rfl
  | cons first rest ih =>
      obtain ⟨here, later⟩ := List.forall_mem_cons.mp each
      rw [evalNodes, evalNodes]
      apply bind_congr_ok (here fun name reaches => agree name (.inl reaches))
      intro value gives
      have given := (evalNode_ok_iff first value).mp gives
      rw [ih later fun name reaches => agree name (.inr ⟨value, given, reaches⟩)]

theorem evalChain_eq_of_reaches {comparators : List PyNode}
    (each : ∀ node ∈ comparators,
      (∀ name, Reaches lib base name node → base.get? name = other.get? name) →
        evalNode lib base node = evalNode lib other node)
    {current : PyValue} {ops : List CmpOperator}
    (agree : ∀ name, ReachesChain lib base name current ops comparators →
      base.get? name = other.get? name) :
    evalChain lib base current ops comparators =
      evalChain lib other current ops comparators := by
  induction comparators generalizing current ops with
  | nil => cases ops <;> rfl
  | cons first rest ih =>
      cases ops with
      | nil => rfl
      | cons op ops =>
          obtain ⟨here, later⟩ := List.forall_mem_cons.mp each
          rw [evalChain, evalChain]
          apply bind_congr_ok (here fun name reaches => agree name (.inl reaches))
          intro right gives
          have given := (evalNode_ok_iff first right).mp gives
          apply bind_congr_ok rfl
          intro holds compared
          obtain ⟨function, known, outcome⟩ := applyComparator_ok_iff.mp compared
          cases holds with
          | false => rfl
          | true =>
              exact ih later fun name reaches =>
                agree name (.inr ⟨right, given, function, known, outcome, reaches⟩)

/-- An outcome depends on the names that the evaluation comes to. -/
theorem evalNode_eq_of_reaches {tree : PyNode}
    (agree : ∀ name, Reaches lib base name tree → base.get? name = other.get? name) :
    evalNode lib base tree = evalNode lib other tree := by
  induction tree using PyNode.induct with
  | constant constant => rfl
  | name id =>
      rw [evalNode, evalNode, evalName, evalName]
      cases safe : safeFunction? id with
      | some function => rfl
      | none => rw [agree id ⟨rfl, safe⟩]
  | binOp left op right one two =>
      rw [evalNode, evalNode]
      apply bind_congr_ok (one fun name reaches => agree name (.inl reaches))
      intro a gives
      have given := (evalNode_ok_iff left a).mp gives
      rw [two fun name reaches => agree name (.inr ⟨a, given, reaches⟩)]
  | unaryOp op operand one => rw [evalNode, evalNode, one agree]
  | boolOp op values all =>
      rw [evalNode, evalNode, evalNodes_eq_of_reaches all agree]
  | compare left ops comparators one all =>
      rw [evalNode, evalNode]
      apply bind_congr_ok (one fun name reaches => agree name (.inl reaches))
      intro current gives
      have given := (evalNode_ok_iff left current).mp gives
      exact evalChain_eq_of_reaches all fun name reaches =>
        agree name (.inr ⟨current, given, reaches⟩)
  | ifExp test body orelse one two three =>
      rw [evalNode, evalNode]
      apply bind_congr_ok (one fun name reaches => agree name (.inl reaches))
      intro condition gives
      have given := (evalNode_ok_iff test condition).mp gives
      split
      · rename_i taken
        exact two fun name reaches =>
          agree name (.inr ⟨condition, given, by rwa [if_pos taken]⟩)
      · rename_i taken
        exact three fun name reaches =>
          agree name (.inr ⟨condition, given, by rwa [if_neg taken]⟩)
  | call func args keywords _ all =>
      have each := evalNodes_eq_of_reaches all agree
      cases func with
      | name id => rw [evalNode, evalNode, each]
      | _ => rfl
  | other className children => rfl

theorem customValue_eq {expr : MetricExpression}
    (agree : ∀ name, Reaches lib base name expr.tree → base.get? name = other.get? name) :
    customValue lib expr base = customValue lib expr other := by
  rw [customValue, customValue, MetricExpression.evaluate, MetricExpression.evaluate,
    evalNode_eq_of_reaches agree]

end Agreement

/-! ### The batch rule -/

/-- Entries added to a dictionary, each with the value of its expression. -/
def mergeCustoms (value : MetricExpression → Except EvalError PyValue) :
    List (String × MetricExpression) → Dict String PyValue →
      Except EvalError (Dict String PyValue)
  | [], out => .ok out
  | (name, expr) :: rest, out => do
      let computed ← value expr
      mergeCustoms value rest (out.set name computed)

section Batch

variable {lib : Libm} {parse : String → Except String PyNode}
  {value : MetricExpression → Except EvalError PyValue}

/-- With expressions that compile, the source's batch is the one of their values on the
base metrics. -/
theorem evaluateEntries_eq {customs : List (String × String)}
    {compiled : List (String × MetricExpression)} (base out : Dict String PyValue)
    (compiles : compileCustoms parse customs = .ok compiled) :
    evaluateEntries lib parse base customs out =
      mergeCustoms (fun expr => expr.evaluate lib base) compiled out := by
  induction customs generalizing compiled out with
  | nil =>
      cases compiles
      rfl
  | cons entry rest ih =>
      obtain ⟨name, source⟩ := entry
      obtain ⟨expr, here, compiles⟩ := bind_eq_ok_iff.mp compiles
      obtain ⟨others, later, compiles⟩ := bind_eq_ok_iff.mp compiles
      cases compiles
      rw [evaluateEntries, mergeCustoms, here]
      change (expr.evaluate lib base >>= _) = _
      apply bind_congr_ok rfl
      exact fun computed _ => ih (out.set name computed) later

theorem names_compileCustoms {customs : List (String × String)}
    {compiled : List (String × MetricExpression)}
    (compiles : compileCustoms parse customs = .ok compiled) :
    compiled.map Prod.fst = customs.map Prod.fst := by
  induction customs generalizing compiled with
  | nil =>
      cases compiles
      rfl
  | cons entry rest ih =>
      obtain ⟨expr, -, compiles⟩ := bind_eq_ok_iff.mp compiles
      obtain ⟨others, later, compiles⟩ := bind_eq_ok_iff.mp compiles
      cases compiles
      rw [List.map_cons, List.map_cons, ih later]

/-- What a batch stores under a name. -/
theorem get?_mergeCustoms {entries : List (String × MetricExpression)}
    {out metrics : Dict String PyValue} (distinct : (entries.map Prod.fst).Nodup)
    (merged : mergeCustoms value entries out = .ok metrics) (name : String) :
    (∃ expr computed, (name, expr) ∈ entries ∧ value expr = .ok computed ∧
      metrics.get? name = some computed) ∨
    (name ∉ entries.map Prod.fst ∧ metrics.get? name = out.get? name) := by
  induction entries generalizing out with
  | nil =>
      cases merged
      exact .inr ⟨List.not_mem_nil, rfl⟩
  | cons entry rest ih =>
      obtain ⟨own, expr⟩ := entry
      obtain ⟨computed, gives, merged⟩ := bind_eq_ok_iff.mp merged
      obtain ⟨apart, distinct⟩ := List.nodup_cons.mp distinct
      rcases ih distinct merged with ⟨later, found, member, value, stored⟩ | ⟨absent, kept⟩
      · exact .inl ⟨later, found, List.mem_cons_of_mem _ member, value, stored⟩
      · by_cases here : name = own
        · subst here
          rw [Dict.get?_set_self] at kept
          exact .inl ⟨expr, computed, List.mem_cons_self, gives, kept⟩
        · rw [Dict.get?_set_of_ne _ _ here] at kept
          refine .inr ⟨?_, kept⟩
          exact fun member => (List.mem_cons.mp member).elim here absent

theorem mergeCustoms_ok_iff (entries : List (String × MetricExpression))
    (out : Dict String PyValue) :
    (∃ metrics, mergeCustoms value entries out = .ok metrics) ↔
      ∀ entry ∈ entries, ∃ computed, value entry.2 = .ok computed := by
  induction entries generalizing out with
  | nil => exact ⟨fun _ => List.forall_mem_nil _, fun _ => ⟨out, rfl⟩⟩
  | cons entry rest ih =>
      rw [List.forall_mem_cons]
      constructor
      · rintro ⟨metrics, merged⟩
        obtain ⟨computed, gives, merged⟩ := bind_eq_ok_iff.mp merged
        exact ⟨⟨computed, gives⟩, (ih _).mp ⟨metrics, merged⟩⟩
      · rintro ⟨⟨computed, gives⟩, others⟩
        obtain ⟨metrics, merged⟩ := (ih (out.set entry.1 computed)).mpr others
        exact ⟨metrics, bind_eq_ok_iff.mpr ⟨computed, gives, merged⟩⟩

theorem mergeCustoms_congr {other : MetricExpression → Except EvalError PyValue}
    {entries : List (String × MetricExpression)} (out : Dict String PyValue)
    (same : ∀ entry ∈ entries, value entry.2 = other entry.2) :
    mergeCustoms value entries out = mergeCustoms other entries out := by
  induction entries generalizing out with
  | nil => rfl
  | cons entry rest ih =>
      obtain ⟨here, later⟩ := List.forall_mem_cons.mp same
      rw [mergeCustoms, mergeCustoms]
      exact bind_congr_ok here fun computed _ => ih _ later

/-- The order of the entries makes no difference to a batch. -/
theorem mergeCustoms_perm {one two : List (String × MetricExpression)}
    {out metrics : Dict String PyValue} (distinct : (one.map Prod.fst).Nodup)
    (same : two.Perm one) (merged : mergeCustoms value one out = .ok metrics) :
    ∃ other, mergeCustoms value two out = .ok other ∧
      ∀ name, other.get? name = metrics.get? name := by
  have names : (two.map Prod.fst).Perm (one.map Prod.fst) := same.map _
  obtain ⟨other, merging⟩ := (mergeCustoms_ok_iff two out).mpr fun entry member =>
    (mergeCustoms_ok_iff one out).mp ⟨metrics, merged⟩ entry (same.mem_iff.mp member)
  refine ⟨other, merging, fun name => ?_⟩
  have apart : (two.map Prod.fst).Nodup := names.nodup_iff.mpr distinct
  rcases get?_mergeCustoms distinct merged name with
    ⟨expr, computed, member, gives, stored⟩ | ⟨absent, kept⟩
  · rcases get?_mergeCustoms apart merging name with
      ⟨again, repeated, inTwo, regives, restored⟩ | ⟨missing, -⟩
    · have alike := List.inj_on_of_nodup_map distinct (same.mem_iff.mp inTwo) member rfl
      cases alike
      rw [gives] at regives
      cases regives
      rw [restored, stored]
    · exact absurd (names.mem_iff.mpr (List.mem_map_of_mem member)) missing
  · rcases get?_mergeCustoms apart merging name with
      ⟨again, repeated, inTwo, -, -⟩ | ⟨-, rekept⟩
    · exact absurd (names.mem_iff.mp (List.mem_map_of_mem inTwo)) absent
    · rw [rekept, kept]

end Batch

/-! ### The loop of the sweep -/

/-- No expression, evaluated on the base metrics, reads the name of an earlier entry. -/
def ReadsOnlyBase (lib : Libm) (base : Dict String PyValue)
    (entries : List (String × MetricExpression)) : Prop :=
  entries.Pairwise fun earlier later => ¬Reaches lib base earlier.1 later.2.tree

/-- The step writes one name, which no later expression reads. -/
theorem storeCustoms_eq {lib : Libm} {base metrics : Dict String PyValue}
    {entries : List (String × MetricExpression)}
    (independent : ReadsOnlyBase lib base entries)
    (agree : ∀ entry ∈ entries, ∀ name, Reaches lib base name entry.2.tree →
      base.get? name = metrics.get? name) :
    storeCustoms lib entries metrics =
      mergeCustoms (fun expr => customValue lib expr base) entries metrics := by
  induction entries generalizing metrics with
  | nil => rfl
  | cons entry rest ih =>
      obtain ⟨first, others⟩ := List.pairwise_cons.mp independent
      obtain ⟨here, later⟩ := List.forall_mem_cons.mp agree
      rw [storeCustoms, mergeCustoms]
      apply bind_congr_ok (customValue_eq here).symm
      intro value _
      apply ih others
      intro next member name reaches
      have other : name ≠ entry.1 := fun same => first next member (same ▸ reaches)
      rw [Dict.get?_set_of_ne _ _ other]
      exact later next member name reaches

namespace CustomMetrics

/-- The metrics that a sweep stores are those of the batch on the base metrics, with NaN
for an expression that fails. -/
def Matches (lib : Libm) (base : Dict String PyValue)
    (entries : List (String × MetricExpression)) : Prop :=
  storeCustoms lib entries base =
    mergeCustoms (fun expr => customValue lib expr base) entries base

/-- Without failures this is what `evaluate_custom_metrics` gives. -/
theorem batch_eq_evaluateCustomMetrics {lib : Libm}
    {parse : String → Except String PyNode} {customs : Dict String String}
    {compiled : List (String × MetricExpression)} {base : Dict String PyValue}
    (compiles : compileCustoms parse customs.items = .ok compiled)
    (fine : ∀ entry ∈ compiled, ∃ value, entry.2.evaluate lib base = .ok value) :
    mergeCustoms (fun expr => customValue lib expr base) compiled base =
      evaluateCustomMetrics lib parse customs base := by
  rw [evaluateCustomMetrics, evaluateEntries_eq base base compiles]
  apply mergeCustoms_congr
  intro entry member
  obtain ⟨value, gives⟩ := fine entry member
  rw [customValue, gives]

/-- For every `custom_metrics` that compile and all base metrics: where no expression,
evaluated on the base metrics, comes to the name of an earlier entry, a sweep stores
what the batch computes, `evaluate_custom_metrics` if none fails; and in any such order
of the entries it stores the same. -/
theorem sweep_matches_batch (lib : Libm) (parse : String → Except String PyNode)
    (customs : Dict String String) (compiled : List (String × MetricExpression))
    (base : Dict String PyValue) (compiles : compileCustoms parse customs.items = .ok compiled)
    (independent : ReadsOnlyBase lib base compiled) :
    Matches lib base compiled ∧
      ((∀ entry ∈ compiled, ∃ value, entry.2.evaluate lib base = .ok value) →
        storeCustoms lib compiled base = evaluateCustomMetrics lib parse customs base) ∧
      ∀ other metrics, other.Perm compiled → ReadsOnlyBase lib base other →
        storeCustoms lib compiled base = .ok metrics →
          ∃ stored, storeCustoms lib other base = .ok stored ∧
            ∀ name, stored.get? name = metrics.get? name := by
  have batch : Matches lib base compiled := storeCustoms_eq independent fun _ _ _ _ => rfl
  refine ⟨batch, ?_, ?_⟩
  · exact fun fine => batch.trans (batch_eq_evaluateCustomMetrics compiles fine)
  · intro other metrics same otherwise stored
    have distinct : (compiled.map Prod.fst).Nodup := by
      rw [names_compileCustoms compiles]
      exact customs.nodup
    rw [storeCustoms_eq otherwise fun _ _ _ _ => rfl]
    rw [batch] at stored
    exact mergeCustoms_perm distinct same stored

/-! Expressions that double or halve the net result, and one that reads another. -/

def doubled : MetricExpression where
  source := "net_pnl * 2"
  tree := .binOp (.name "net_pnl") .mult (.constant (.int 2))
  accepted := by decide

def halved : MetricExpression where
  source := "net_pnl / 2"
  tree := .binOp (.name "net_pnl") .div (.constant (.int 2))
  accepted := by decide

def chained : MetricExpression where
  source := "doubled + 1"
  tree := .binOp (.name "doubled") .add (.constant (.int 1))
  accepted := by decide

def parse (source : String) : Except String PyNode :=
  if source = doubled.source then .ok doubled.tree
  else if source = halved.source then .ok halved.tree
  else if source = chained.source then .ok chained.tree
  else .error "invalid syntax"

def netOnly : Dict String PyValue := Dict.empty.set "net_pnl" (.float (.fin 90))

theorem doubled_halved_match :
    let customs : Dict String String :=
      ⟨[("doubled", "net_pnl * 2"), ("halved", "net_pnl / 2")], by decide⟩
    let compiled := [("doubled", doubled), ("halved", halved)]
    Matches .least netOnly compiled ∧
      ((∀ entry ∈ compiled, ∃ value, entry.2.evaluate .least netOnly = .ok value) →
        storeCustoms .least compiled netOnly =
          evaluateCustomMetrics .least parse customs netOnly) ∧
      ∀ other metrics, other.Perm compiled → ReadsOnlyBase .least netOnly other →
        storeCustoms .least compiled netOnly = .ok metrics →
          ∃ stored, storeCustoms .least other netOnly = .ok stored ∧
            ∀ name, stored.get? name = metrics.get? name := by
  refine sweep_matches_batch .least parse _ _ _ rfl ?_
  simp [ReadsOnlyBase, Reaches, halved]

/-- With `doubled` stored, `doubled + 1` has a value; on the base metrics it has none. -/
theorem chains_exist :
    ¬∀ lib parse (customs : Dict String String) compiled base,
      compileCustoms parse customs.items = .ok compiled → Matches lib base compiled := by
  intro claimed
  have held := claimed .least parse
    ⟨[("doubled", "net_pnl * 2"), ("more", "doubled + 1")], by decide⟩
    [("doubled", doubled), ("more", chained)] netOnly rfl
  have differ : (storeCustoms .least [("doubled", doubled), ("more", chained)] netOnly).map
        (·.get? "more") ≠
      (mergeCustoms (fun expr => customValue .least expr netOnly)
        [("doubled", doubled), ("more", chained)] netOnly).map (·.get? "more") := by
    decide +kernel
  exact differ (congrArg _ held)

end CustomMetrics

end StingerFx
