/-
Module: StingerFx.Config.Reload
Layer: Config
Purpose: The reloader. It walks the differences between the adopted snapshot and a
  new one and answers each with a callback that the runtime has injected, or notes
  that a restart is needed. A callback that raises is noted as an error, and the
  walk goes on.
Trusted boundary: human-reviewed model of the source's hot-reload diff
Main exports: Config.Attempt, Config.ReloadActions, Config.ReloadResult,
  Config.Progress, Config.Progress.safe, Config.diffApp, Config.diffStrategies,
  Config.diffAndApply
-/
import StingerFx.Config.Models

namespace StingerFx

open Lib

namespace Config

variable {S ρ π : Type}

/-- What a callback leaves behind, and the text of the exception that it raised. -/
structure Attempt (S : Type) where
  state : S
  error : Option String

/-- The callbacks of the engine. -/
structure ReloadActions (S ρ π : Type) where
  addStrategy : StrategyEntry π → S → Attempt S
  removeStrategy : StrategyId → S → Attempt S
  replaceStrategy : StrategyEntry π → S → Attempt S
  updateParams : StrategyId → π → S → Attempt S
  setEnabled : StrategyId → Bool → S → Attempt S
  changeAccount : StrategyId → AccountId → S → Attempt S
  updateLogLevel : LogLevel → S → Attempt S
  updateRisk : ρ → S → Attempt S

structure ReloadResult where
  applied : List String
  needsRestart : List String
  errors : List String
deriving Repr, DecidableEq

def ReloadResult.ok (result : ReloadResult) : Bool := result.errors.isEmpty

/-- How far a reload has come. -/
structure Progress (S : Type) where
  state : S
  result : ReloadResult

namespace Progress

def start (state : S) : Progress S := ⟨state, ⟨[], [], []⟩⟩

/-- `_safe`. -/
def safe (p : Progress S) (call : S → Attempt S) (label : String) : Progress S :=
  let attempt := call p.state
  match attempt.error with
  | none =>
      ⟨attempt.state, { p.result with applied := p.result.applied ++ [label] }⟩
  | some e =>
      ⟨attempt.state,
        { p.result with errors := p.result.errors ++ [s!"{label}: {e}"] }⟩

def restart (p : Progress S) (label : String) : Progress S :=
  ⟨p.state,
    { p.result with needsRestart := p.result.needsRestart ++ [label] }⟩

/-- `if condition: ...`. -/
def onlyIf (p : Progress S) (condition : Bool) (body : Progress S → Progress S) :
    Progress S :=
  if condition then body p else p

/-! Errors are only ever added. -/

@[simp] theorem safe_state (p : Progress S) (call : S → Attempt S)
    (label : String) : (p.safe call label).state = (call p.state).state := by
  unfold safe
  dsimp only
  split <;> rfl

@[simp] theorem safe_errors (p : Progress S) (call : S → Attempt S)
    (label : String) :
    (p.safe call label).result.errors = [] ↔
      p.result.errors = [] ∧ (call p.state).error = none := by
  unfold safe
  dsimp only
  split
  · rename_i fine
    rw [fine]
    exact (and_iff_left rfl).symm
  · rename_i raised
    rw [raised]
    constructor
    · intro empty
      exact absurd empty (List.append_ne_nil_of_right_ne_nil _ (List.cons_ne_nil _ _))
    · intro both
      cases both.2

@[simp] theorem restart_state (p : Progress S) (label : String) :
    (p.restart label).state = p.state := rfl

@[simp] theorem restart_errors (p : Progress S) (label : String) :
    (p.restart label).result.errors = p.result.errors := rfl

theorem onlyIf_pos (p : Progress S) {condition : Bool} (holds : condition = true)
    (body : Progress S → Progress S) : p.onlyIf condition body = body p := by
  rw [holds]
  rfl

theorem onlyIf_neg (p : Progress S) {condition : Bool} (fails : condition = false)
    (body : Progress S → Progress S) : p.onlyIf condition body = p := by
  rw [fails]
  rfl

@[simp] theorem onlyIf_restart_state (p : Progress S) (condition : Bool)
    (label : String) :
    (p.onlyIf condition (·.restart label)).state = p.state := by
  cases condition <;> rfl

@[simp] theorem onlyIf_restart_errors (p : Progress S) (condition : Bool)
    (label : String) :
    (p.onlyIf condition (·.restart label)).result.errors = p.result.errors := by
  cases condition <;> rfl

theorem onlyIf_safe_state (p : Progress S) (condition : Bool)
    (call : S → Attempt S) (label : String) :
    (p.onlyIf condition (·.safe call label)).state =
      if condition then (call p.state).state else p.state := by
  cases condition with
  | true => exact safe_state p call label
  | false => rfl

/-- A conditional call that ends without an error was skipped, or went through. -/
theorem onlyIf_done {p : Progress S} {condition : Bool} {call : S → Attempt S}
    {label : String}
    (clean : (p.onlyIf condition (·.safe call label)).result.errors = []) :
    p.result.errors = [] ∧
      ((condition = true ∧ (call p.state).error = none ∧
          (p.onlyIf condition (·.safe call label)).state =
            (call p.state).state) ∨
        (condition = false ∧
          p.onlyIf condition (·.safe call label) = p)) := by
  cases condition with
  | true =>
      rw [onlyIf_pos p rfl, safe_errors] at clean
      rw [onlyIf_pos p rfl]
      exact ⟨clean.1, .inl ⟨rfl, clean.2, safe_state p call label⟩⟩
  | false => exact ⟨clean, .inr ⟨rfl, rfl⟩⟩

end Progress

/-! ### The application section -/

/-- `_diff_app`. -/
def diffApp [DecidableEq ρ] (acts : ReloadActions S ρ π) (old new : AppConfig ρ)
    (p : Progress S) : Progress S :=
  if old.primary.type ≠ new.primary.type then
    p.restart
      ("broker.type (" ++ old.primary.type.text ++ "→" ++
        new.primary.type.text ++ ")")
  else
    let p := p.onlyIf (decide (old.brokerList ≠ new.brokerList))
      (·.restart "broker.*")
    let p := p.onlyIf
      (old.allowUnsafeInprocessMt5MultiAccount !=
        new.allowUnsafeInprocessMt5MultiAccount)
      (·.restart "allow_unsafe_inprocess_mt5_multi_account")
    let p := p.onlyIf
      (decide ((old.web.host, old.web.port) ≠ (new.web.host, new.web.port)))
      (·.restart "web.host/port")
    let p := p.onlyIf (decide (old.logLevel ≠ new.logLevel))
      (·.safe (acts.updateLogLevel new.logLevel)
        ("log_level=" ++ new.logLevel.text))
    let p := p.onlyIf (decide (old.risk ≠ new.risk))
      (·.safe (acts.updateRisk new.risk) "risk.*")
    let p := p.onlyIf (decide (old.mode ≠ new.mode))
      (·.restart ("mode (" ++ old.mode.text ++ "→" ++ new.mode.text ++ ")"))
    let p := p.onlyIf (decide (old.timezone ≠ new.timezone))
      (·.restart ("timezone (" ++ old.timezone ++ "→" ++ new.timezone ++ ")"))
    p.onlyIf (decide (old.dataDir ≠ new.dataDir))
      (·.restart ("data_dir (" ++ old.dataDir ++ "→" ++ new.dataDir ++ ")"))

/-! ### The strategies -/

/-- A removed entry. -/
def removeEntry (acts : ReloadActions S ρ π) (p : Progress S) (sid : StrategyId) :
    Progress S :=
  p.safe (acts.removeStrategy sid) ("strategy[-" ++ sid ++ "]")

/-- An added entry; one that is disabled on arrival has nothing to start. -/
def addEntry (acts : ReloadActions S ρ π) (new : FullConfig ρ π)
    (p : Progress S) (sid : StrategyId) : Progress S :=
  match new.entryOf? sid with
  | none => p
  | some entry =>
      p.onlyIf entry.enabled
        (·.safe (acts.addStrategy entry) ("strategy[+" ++ sid ++ "]"))

/-- The flag of an entry that keeps its class. -/
def adjustEnabled (acts : ReloadActions S ρ π) (sid : StrategyId)
    (o n : StrategyEntry π) (p : Progress S) : Progress S :=
  p.onlyIf (o.enabled != n.enabled)
    (·.safe (acts.setEnabled sid n.enabled)
      ("strategy[" ++ sid ++ "].enabled=" ++
        (if n.enabled then "True" else "False")))

/-- Its parameters, which go to enabled entries only. -/
def adjustParams [DecidableEq π] (acts : ReloadActions S ρ π) (sid : StrategyId)
    (o n : StrategyEntry π) (p : Progress S) : Progress S :=
  p.onlyIf (decide (o.params ≠ n.params) && n.enabled)
    (·.safe (acts.updateParams sid n.params) ("strategy[" ++ sid ++ "].params"))

/-- Its account. -/
def adjustAccount (acts : ReloadActions S ρ π) (sid : StrategyId)
    (o n : StrategyEntry π) (p : Progress S) : Progress S :=
  p.onlyIf (decide (o.account ≠ n.account))
    (·.safe (acts.changeAccount sid n.account)
      ("strategy[" ++ sid ++ "].account=" ++ n.account))

/-- An entry of both snapshots. A change of class replaces the runner, whatever
else has changed. -/
def modifyEntry [DecidableEq π] (acts : ReloadActions S ρ π)
    (old new : FullConfig ρ π) (p : Progress S) (sid : StrategyId) : Progress S :=
  match old.entryOf? sid, new.entryOf? sid with
  | some o, some n =>
      if o = n then p
      else if o.classPath ≠ n.classPath then
        p.safe (acts.replaceStrategy n) ("strategy[~" ++ sid ++ "].class_path")
      else
        adjustAccount acts sid o n
          (adjustParams acts sid o n (adjustEnabled acts sid o n p))
  | _, _ => p

theorem addEntry_of_listed (acts : ReloadActions S ρ π) {new : FullConfig ρ π}
    (p : Progress S) {sid : StrategyId} {n : StrategyEntry π}
    (listed : new.entryOf? sid = some n) :
    addEntry acts new p sid =
      p.onlyIf n.enabled
        (·.safe (acts.addStrategy n) ("strategy[+" ++ sid ++ "]")) := by
  unfold addEntry
  rw [listed]

section Modify

variable [DecidableEq π] (acts : ReloadActions S ρ π) {old new : FullConfig ρ π}
  (p : Progress S) {sid : StrategyId} {o n : StrategyEntry π}

theorem modifyEntry_replaced (was : old.entryOf? sid = some o)
    (listed : new.entryOf? sid = some n) (apart : o.classPath ≠ n.classPath) :
    modifyEntry acts old new p sid =
      p.safe (acts.replaceStrategy n)
        ("strategy[~" ++ sid ++ "].class_path") := by
  have changed : o ≠ n := by
    rintro rfl
    exact apart rfl
  unfold modifyEntry
  rw [was, listed]
  dsimp only
  rw [if_neg changed, if_pos apart]

theorem modifyEntry_adjusted (was : old.entryOf? sid = some o)
    (listed : new.entryOf? sid = some n) (same : o.classPath = n.classPath) :
    modifyEntry acts old new p sid =
      adjustAccount acts sid o n
        (adjustParams acts sid o n (adjustEnabled acts sid o n p)) := by
  unfold modifyEntry
  rw [was, listed]
  dsimp only
  by_cases unchanged : o = n
  · subst unchanged
    simp [adjustAccount, adjustParams, adjustEnabled, Progress.onlyIf]
  · rw [if_neg unchanged, if_neg (not_not.mpr same)]

end Modify

/-- The ids of only the old snapshot, of only the new one, and of both, each in the
order in which the set of ids is iterated. -/
def removedIds (old new : FullConfig ρ π) (order : List StrategyId) :
    List StrategyId :=
  order.filter fun sid => (old.entryOf? sid).isSome && (new.entryOf? sid).isNone

def addedIds (old new : FullConfig ρ π) (order : List StrategyId) :
    List StrategyId :=
  order.filter fun sid => (old.entryOf? sid).isNone && (new.entryOf? sid).isSome

def keptIds (old new : FullConfig ρ π) (order : List StrategyId) :
    List StrategyId :=
  order.filter fun sid => (old.entryOf? sid).isSome && (new.entryOf? sid).isSome

/-- `_diff_strategies`. -/
def diffStrategies [DecidableEq π] (acts : ReloadActions S ρ π)
    (order : List StrategyId) (old new : FullConfig ρ π) (p : Progress S) :
    Progress S :=
  let p := (removedIds old new order).foldl (removeEntry acts) p
  let p := (addedIds old new order).foldl (addEntry acts new) p
  (keptIds old new order).foldl (modifyEntry acts old new) p

/-- What the three loops do with an id. -/
def diffEntry [DecidableEq π] (acts : ReloadActions S ρ π)
    (old new : FullConfig ρ π) (p : Progress S) (sid : StrategyId) : Progress S :=
  match old.entryOf? sid, new.entryOf? sid with
  | some _, none => removeEntry acts p sid
  | none, some _ => addEntry acts new p sid
  | some _, some _ => modifyEntry acts old new p sid
  | none, none => p

/-- The ids in the order in which the three loops meet them. -/
def walk (old new : FullConfig ρ π) (order : List StrategyId) : List StrategyId :=
  removedIds old new order ++ addedIds old new order ++ keptIds old new order

theorem mem_walk {old new : FullConfig ρ π} {order : List StrategyId}
    {sid : StrategyId} :
    sid ∈ walk old new order ↔
      sid ∈ order ∧ ((old.entryOf? sid).isSome ∨ (new.entryOf? sid).isSome) := by
  unfold walk removedIds addedIds keptIds
  simp only [List.mem_append, List.mem_filter]
  cases old.entryOf? sid with
  | none => cases new.entryOf? sid <;> simp
  | some o => cases new.entryOf? sid <;> simp

theorem nodup_walk (old new : FullConfig ρ π) {order : List StrategyId}
    (unique : order.Nodup) : (walk old new order).Nodup := by
  unfold walk removedIds addedIds keptIds
  rw [List.nodup_append, List.nodup_append]
  refine ⟨⟨unique.filter _, unique.filter _, ?_⟩, unique.filter _, ?_⟩
  · rintro sid removed _ added rfl
    have was := (List.mem_filter.mp removed).2
    have wasNot := (List.mem_filter.mp added).2
    cases known : old.entryOf? sid <;> simp [known] at was wasNot
  · rintro sid either _ kept rfl
    have both := (List.mem_filter.mp kept).2
    rcases List.mem_append.mp either with removed | added
    · have isNot := (List.mem_filter.mp removed).2
      cases known : new.entryOf? sid <;> simp [known] at both isNot
    · have wasNot := (List.mem_filter.mp added).2
      cases known : old.entryOf? sid <;> simp [known] at both wasNot

section Walk

variable [DecidableEq π] (acts : ReloadActions S ρ π) {old new : FullConfig ρ π}
  {sid : StrategyId}

theorem diffEntry_removed (p : Progress S)
    (sort : ((old.entryOf? sid).isSome && (new.entryOf? sid).isNone) = true) :
    removeEntry acts p sid = diffEntry acts old new p sid := by
  unfold diffEntry
  cases was : old.entryOf? sid <;> cases listed : new.entryOf? sid <;>
    simp [was, listed] at sort ⊢

theorem diffEntry_added (p : Progress S)
    (sort : ((old.entryOf? sid).isNone && (new.entryOf? sid).isSome) = true) :
    addEntry acts new p sid = diffEntry acts old new p sid := by
  unfold diffEntry
  cases was : old.entryOf? sid <;> cases listed : new.entryOf? sid <;>
    simp [was, listed] at sort ⊢

theorem diffEntry_kept (p : Progress S)
    (sort : ((old.entryOf? sid).isSome && (new.entryOf? sid).isSome) = true) :
    modifyEntry acts old new p sid = diffEntry acts old new p sid := by
  unfold diffEntry
  cases was : old.entryOf? sid <;> cases listed : new.entryOf? sid <;>
    simp [was, listed] at sort ⊢

/-- The three loops are one. -/
theorem diffStrategies_eq (order : List StrategyId) (p : Progress S) :
    diffStrategies acts order old new p =
      (walk old new order).foldl (diffEntry acts old new) p := by
  unfold diffStrategies walk
  rw [List.foldl_append, List.foldl_append]
  dsimp only
  have removed : (removedIds old new order).foldl (removeEntry acts) p =
      (removedIds old new order).foldl (diffEntry acts old new) p :=
    List.foldl_ext _ _ _ fun q _ member =>
      diffEntry_removed acts q (List.mem_filter.mp member).2
  have added : ∀ q : Progress S,
      (addedIds old new order).foldl (addEntry acts new) q =
        (addedIds old new order).foldl (diffEntry acts old new) q :=
    fun q => List.foldl_ext _ _ _ fun q _ member =>
      diffEntry_added acts q (List.mem_filter.mp member).2
  have kept : ∀ q : Progress S,
      (keptIds old new order).foldl (modifyEntry acts old new) q =
        (keptIds old new order).foldl (diffEntry acts old new) q :=
    fun q => List.foldl_ext _ _ _ fun q _ member =>
      diffEntry_kept acts q (List.mem_filter.mp member).2
  rw [removed, added, kept]

end Walk

/-- `diff_and_apply`. -/
def diffAndApply [DecidableEq ρ] [DecidableEq π] (acts : ReloadActions S ρ π)
    (order : List StrategyId) (old new : FullConfig ρ π) (state : S) :
    Progress S :=
  diffStrategies acts order old new
    (diffApp acts old.app new.app (.start state))

end Config

end StingerFx
