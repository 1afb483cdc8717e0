/-
Module: StingerFx.Proofs.StateStores
Layer: Proofs
Purpose: When the JSON state store behaves as the store in memory does. A save whose
  read fails takes the file for empty and writes it back with its own entry alone,
  so the file forgets what the other strategies have stored. Any other failure of a
  read or a write is harmless.
Trusted boundary: none (fully proved)
Main exports: SharedStores, SharedStores.Refines, SharedStores.refines_memory_iff,
  SharedStores.save_forgets_others
-/
import StingerFx.Strategies.StateStore

namespace StingerFx

open Lib

/-- The id that a call is about. -/
def StoreCall.strategyId : StoreCall → StrategyId
  | .save state _ _ => state.strategyId
  | .clear strategyId _ _ | .load strategyId _ => strategyId

namespace JsonFileStateStore

/-- The call writes the file, and the write takes effect. -/
def takesEffect (store : JsonFileStateStore) : StoreCall → Bool
  | .save _ _ write => decide (write = .replaced)
  | .clear strategyId read write =>
      decide ((store.readAll read).get? strategyId ≠ none ∧ write = .replaced)
  | .load _ _ => false

/-- A save that cannot read the file takes effect while another id is stored. -/
def Forgets (store : JsonFileStateStore) (call : StoreCall) : Prop :=
  ∃ state, call = .save state .fails .replaced ∧
    ∃ other, other ≠ state.strategyId ∧ store.file.get? other ≠ none

/-- A call leaves the entries of other ids alone. -/
def Frames (store : JsonFileStateStore) (call : StoreCall) : Prop :=
  ∀ other, other ≠ call.strategyId →
    (store.call call).file.get? other = store.file.get? other

variable {store : JsonFileStateStore}

theorem frames_of_not_forgets {call : StoreCall} (safe : ¬ store.Forgets call) :
    store.Frames call := by
  intro other apart
  cases call with
  | save state read write =>
      cases write with
      | replaced =>
          have written : (store.call (.save state read .replaced)).file.get? other =
              (store.readAll read).get? other := Dict.get?_set_of_ne _ _ apart
          rw [written]
          cases read with
          | fine => rfl
          | fails =>
              have absent : store.file.get? other = none := by
                by_contra stored
                exact safe ⟨state, rfl, other, apart, stored⟩
              exact absent.symm
      | fails => rfl
      | raises => rfl
  | clear strategyId read write =>
      cases read with
      | fine =>
          simp only [call, clear]
          split
          · rfl
          · cases write with
            | replaced => exact Dict.get?_erase_of_ne _ apart
            | fails => rfl
            | raises => rfl
      | fails => rfl
  | load strategyId read => rfl

theorem not_frames_of_forgets {call : StoreCall} (forgets : store.Forgets call) :
    ¬ store.Frames call := by
  obtain ⟨state, rfl, other, apart, stored⟩ := forgets
  intro frames
  have gone : (store.call (.save state .fails .replaced)).file.get? other = none :=
    Dict.get?_set_of_ne _ _ apart
  exact stored ((frames other apart).symm.trans gone)

end JsonFileStateStore

/-- The file, and a store in memory that is given the calls which took effect. -/
structure SharedStores where
  json : JsonFileStateStore
  memory : InMemoryStateStore
deriving DecidableEq

namespace SharedStores

def create : SharedStores := ⟨.create, .create⟩

def next (s : SharedStores) (call : StoreCall) : SharedStores where
  json := s.json.call call
  memory := if s.json.takesEffect call then s.memory.call call else s.memory

/-- Both stores after some calls. -/
def after (calls : List StoreCall) : SharedStores := calls.foldl next create

/-- What the claim asks of a call. -/
structure Agrees (s : SharedStores) (call : StoreCall) : Prop where
  load : ∀ strategyId, call = .load strategyId .fine →
    s.json.load strategyId .fine = s.memory.load strategyId
  frame : s.json.Frames call

def Refines (calls : List StoreCall) : Prop :=
  ∀ earlier call later, calls = earlier ++ call :: later → (after earlier).Agrees call

/-- Both stores hold the same states. -/
def Same (s : SharedStores) : Prop :=
  ∀ strategyId, s.json.file.get? strategyId = s.memory.load strategyId

variable {s : SharedStores}

theorem after_concat (calls : List StoreCall) (call : StoreCall) :
    after (calls ++ [call]) = (after calls).next call :=
  List.foldl_concat _ _ _ _

/-- A call that does not take effect changes nothing. -/
theorem next_of_idle {call : StoreCall} (idle : s.json.takesEffect call = false) :
    s.next call = s := by
  have json : s.json.call call = s.json := by
    cases call with
    | save state read write =>
        cases write with
        | replaced => cases idle
        | fails => rfl
        | raises => rfl
    | clear strategyId read write =>
        simp only [JsonFileStateStore.call, JsonFileStateStore.clear]
        split
        · rfl
        · rename_i stored
          cases write with
          | replaced => exact absurd ⟨stored, rfl⟩ (of_decide_eq_false idle)
          | fails => rfl
          | raises => rfl
    | load strategyId read => rfl
  simp only [SharedStores.next, json, idle]
  rfl

/-- After a call that takes effect both stores have the same state of its id. -/
theorem own_of_effect {call : StoreCall} (effect : s.json.takesEffect call = true) :
    (s.json.call call).file.get? call.strategyId =
      (s.memory.call call).load call.strategyId := by
  cases call with
  | save state read write =>
      obtain rfl : write = .replaced := of_decide_eq_true effect
      have json : (s.json.call (.save state read .replaced)).file.get?
          state.strategyId = some state := Dict.get?_set_self _ _ _
      have memory : (s.memory.save state).load state.strategyId = some state :=
        Dict.get?_set_self _ _ _
      exact json.trans memory.symm
  | clear strategyId read write =>
      obtain ⟨stored, rfl⟩ := of_decide_eq_true effect
      have written : s.json.call (.clear strategyId read .replaced) =
          ⟨(s.json.readAll read).erase strategyId⟩ := if_neg stored
      have memory : (s.memory.clear strategyId).load strategyId = none :=
        Dict.get?_erase_self _ _
      rw [written]
      exact (Dict.get?_erase_self _ _).trans memory.symm
  | load strategyId read => cases effect

/-- The stores part only at a call that forgets. -/
theorem Same.next (same : s.Same) {call : StoreCall} (safe : ¬ s.json.Forgets call) :
    (s.next call).Same := by
  cases effect : s.json.takesEffect call with
  | false =>
      rw [next_of_idle effect]
      exact same
  | true =>
      have memory : (s.next call).memory = s.memory.call call := if_pos effect
      intro other
      rw [memory]
      by_cases own : other = call.strategyId
      · subst own
        exact own_of_effect effect
      · -- neither store touches the others
        have json := JsonFileStateStore.frames_of_not_forgets safe other own
        have kept : (s.memory.call call).load other = s.memory.load other := by
          cases call with
          | save state read write => exact Dict.get?_set_of_ne _ _ own
          | clear strategyId read write => exact Dict.get?_erase_of_ne _ own
          | load strategyId read => rfl
        exact (json.trans (same other)).trans kept.symm

theorem same_after {calls : List StoreCall}
    (safe : ∀ earlier call later, calls = earlier ++ call :: later →
      ¬ (after earlier).json.Forgets call) : (after calls).Same := by
  induction calls using List.reverseRecOn with
  | nil => exact fun _ => rfl
  | append_singleton calls call ih =>
      rw [after_concat]
      apply Same.next
      · apply ih
        intro earlier other later split
        exact safe earlier other (later ++ [call]) (by rw [split]; simp)
      · exact safe calls call [] rfl

/-- The JSON store refines the store in memory exactly if no save takes effect after
a failed read while the state of another id is stored. -/
theorem refines_memory_iff (calls : List StoreCall) :
    Refines calls ↔
      ∀ earlier call later, calls = earlier ++ call :: later →
        ¬ (after earlier).json.Forgets call := by
  constructor
  · intro refines earlier call later split forgets
    exact JsonFileStateStore.not_frames_of_forgets forgets
      (refines earlier call later split).frame
  · intro safe earlier call later split
    have same : (after earlier).Same := by
      apply same_after
      intro front other back parts
      exact safe front other (back ++ call :: later) (by rw [split, parts]; simp)
    exact
      { load := fun strategyId _ => same strategyId
        frame := JsonFileStateStore.frames_of_not_forgets
          (safe earlier call later split) }

/-! ### Two strategies and one file -/

/-- The state of a strategy with one long position. -/
def held (strategyId : StrategyId) (ticket : Ticket) : PositionState :=
  ⟨strategyId, "XAUUSD", .buy, 2000, ticket, 1990⟩

/-- The second strategy saves while the file cannot be read. -/
def forgetful : List StoreCall :=
  [.save (held "gold" 1) .fine .replaced, .save (held "silver" 2) .fails .replaced,
    .load "gold" .fine]

/-- The state of the first strategy is gone from the file. -/
theorem save_forgets_others :
    ¬ Refines forgetful ∧ (after forgetful).json.load "gold" .fine = none ∧
      (after forgetful).memory.load "gold" = some (held "gold" 1) := by
  refine ⟨?_, by decide, by decide⟩
  intro refines
  have agrees := refines (forgetful.take 2) (.load "gold" .fine) [] rfl
  have loads := agrees.load "gold" rfl
  revert loads
  decide

end SharedStores

end StingerFx
