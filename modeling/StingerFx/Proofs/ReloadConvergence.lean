/-
Module: StingerFx.Proofs.ReloadConvergence
Layer: Proofs
Purpose: When hot reloads end where a fresh start ends. A reload compares the new
  snapshot with the one adopted last, not with what runs. So what the comparison
  skips must be right already, and this is exactly what convergence takes. Along
  every run in which no reload adds a strategy beside a working runner of the same
  id, the last reload converges if and only if it finds things so.
Trusted boundary: none (fully proved)
Main exports: StrategyView, StingerApp.viewOf, StrategyView.Serves,
  StingerApp.Converged, StrategyView.Ready, StingerApp.Covers,
  StingerApp.AddsApart, StingerApp.hot_reload_converges,
  StingerApp.paused_params_dropped
-/
import StingerFx.Lib.Visits
import StingerFx.Runtime.HotReload

namespace StingerFx

open Lib Config

variable {ρ π ν : Type}

/-! ### One strategy at a time -/

/-- What the engine has of one strategy. -/
structure StrategyView (π ν : Type) where
  listed : Option (StrategyEntry π)
  runner : Option (LiveRunner ν)
  strays : List (LiveRunner ν)
  account : Option AccountId

namespace StrategyView

/-- The runners that are not paused, astray ones included. -/
def active (v : StrategyView π ν) : List (LiveRunner ν) :=
  (v.runner.toList ++ v.strays).filter fun r => !r.paused

/-- No astray runner works. -/
def Quiet (v : StrategyView π ν) : Prop := ∀ r ∈ v.strays, r.paused = true

/-- No registered runner works. -/
def Vacant (v : StrategyView π ν) : Prop :=
  ∀ r, v.runner = some r → r.paused = true

instance (v : StrategyView π ν) : Decidable v.Vacant :=
  decidable_of_iff (∀ r ∈ v.runner, r.paused = true) Iff.rfl

/-- Exactly what an entry asks for is at work: one runner with the entry's class,
parameters and account when it is enabled, and none otherwise. -/
def Serves (lib : StrategyLibrary π ν) (v : StrategyView π ν) :
    Option (StrategyEntry π) → Prop
  | none => v.active = []
  | some entry =>
      if entry.enabled then
        ∃ params, lib.validate entry.classPath entry.params = .ok params ∧
          v.active = [⟨entry.classPath, params, false⟩] ∧
          v.account = some entry.account
      else v.active = []

/-- Wherever an entry stays as it is, the runner has it so already. -/
structure Kept (lib : StrategyLibrary π ν) (v : StrategyView π ν)
    (o n : StrategyEntry π) (r : LiveRunner ν) : Prop where
  working : o.enabled = true → r.paused = false
  classPath : r.classPath = n.classPath
  params : o.params = n.params →
    lib.validate n.classPath n.params = .ok r.params
  account : o.account = n.account → v.account = some n.account

/-- What the comparison of two entries skips is right already. -/
def Ready (lib : StrategyLibrary π ν) (v : StrategyView π ν) :
    Option (StrategyEntry π) → Option (StrategyEntry π) → Prop
  | some _, none => True
  | none, _ => v.Vacant
  | some o, some n =>
      if o.classPath = n.classPath then
        if n.enabled then
          match v.runner with
          | none => o.enabled = false
          | some r => v.Kept lib o n r
        else o.enabled = false → v.Vacant
      else n.enabled = true

/-! ### Updates of a view -/

def registered (v : StrategyView π ν) (r : LiveRunner ν) : StrategyView π ν :=
  { v with runner := some r, strays := v.strays ++ v.runner.toList }

def withRunner (v : StrategyView π ν) (r : LiveRunner ν) : StrategyView π ν :=
  { v with runner := some r }

def vacated (v : StrategyView π ν) (account : Option AccountId) :
    StrategyView π ν :=
  { v with runner := none, account := account }

def routed (v : StrategyView π ν) (account : AccountId) : StrategyView π ν :=
  { v with account := some account }

@[simp] theorem withRunner_runner (v : StrategyView π ν) (r : LiveRunner ν) :
    (v.withRunner r).runner = some r := rfl

@[simp] theorem withRunner_account (v : StrategyView π ν) (r : LiveRunner ν) :
    (v.withRunner r).account = v.account := rfl

@[simp] theorem withRunner_withRunner (v : StrategyView π ν)
    (r r' : LiveRunner ν) : (v.withRunner r).withRunner r' = v.withRunner r' := rfl

@[simp] theorem routed_runner (v : StrategyView π ν) (account : AccountId) :
    (v.routed account).runner = v.runner := rfl

@[simp] theorem routed_account (v : StrategyView π ν) (account : AccountId) :
    (v.routed account).account = some account := rfl

theorem withRunner_self {v : StrategyView π ν} {r : LiveRunner ν}
    (known : v.runner = some r) : v.withRunner r = v := by
  unfold withRunner
  rw [← known]

/-! ### Who is at work -/

theorem active_of_quiet {v : StrategyView π ν} (quiet : v.Quiet) :
    v.active = v.runner.toList.filter fun r => !r.paused := by
  have none : (v.strays.filter fun r => !r.paused) = [] := by
    rw [List.filter_eq_nil_iff]
    intro r member
    rw [quiet r member]
    decide
  rw [active, List.filter_append, none, List.append_nil]

theorem active_nil_iff {v : StrategyView π ν} (quiet : v.Quiet) :
    v.active = [] ↔ v.Vacant := by
  rw [active_of_quiet quiet]
  unfold Vacant
  cases v.runner with
  | none => simp
  | some r => simp

theorem active_singleton_iff {v : StrategyView π ν} (quiet : v.Quiet)
    {r : LiveRunner ν} (working : r.paused = false) :
    v.active = [r] ↔ v.runner = some r := by
  rw [active_of_quiet quiet]
  cases v.runner with
  | none => simp
  | some found =>
      cases paused : found.paused with
      | true =>
          have other : found ≠ r := by
            rintro rfl
            rw [working] at paused
            cases paused
          simp [paused, other]
      | false => simp [paused]

/-- Among paused strays an enabled entry is served by its registered runner. -/
theorem serves_enabled {lib : StrategyLibrary π ν} {v : StrategyView π ν}
    (quiet : v.Quiet) {n : StrategyEntry π} (enabled : n.enabled = true) :
    v.Serves lib (some n) ↔
      ∃ params, lib.validate n.classPath n.params = .ok params ∧
        v.runner = some ⟨n.classPath, params, false⟩ ∧
        v.account = some n.account := by
  simp only [Serves, enabled, if_true]
  constructor
  · rintro ⟨params, valid, only, account⟩
    exact ⟨params, valid, (active_singleton_iff quiet rfl).mp only, account⟩
  · rintro ⟨params, valid, known, account⟩
    exact ⟨params, valid, (active_singleton_iff quiet rfl).mpr known, account⟩

theorem serves_disabled {lib : StrategyLibrary π ν} {v : StrategyView π ν}
    (quiet : v.Quiet) {n : StrategyEntry π} (disabled : n.enabled = false) :
    v.Serves lib (some n) ↔ v.Vacant := by
  simp only [Serves, disabled]
  exact active_nil_iff quiet

/-- A runner that is registered beside another serves its entry if the other one
does not work. -/
theorem serves_registered {lib : StrategyLibrary π ν} {v : StrategyView π ν}
    (quiet : v.Quiet) {n : StrategyEntry π} (enabled : n.enabled = true)
    {params : ν} (valid : lib.validate n.classPath n.params = .ok params) :
    ((v.registered ⟨n.classPath, params, false⟩).routed n.account).Serves lib
        (some n) ↔
      v.Vacant := by
  have working : ((v.registered ⟨n.classPath, params, false⟩).routed
      n.account).active = ⟨n.classPath, params, false⟩ :: v.active := by
    simp only [active, registered, routed, Option.toList_some, List.filter_append,
      List.filter_cons, List.filter_nil]
    rw [List.filter_eq_nil_iff.mpr fun r member => by rw [quiet r member]; decide]
    simp
  rw [← active_nil_iff quiet]
  simp only [Serves, enabled, if_true, working, List.cons.injEq, valid]
  constructor
  · rintro ⟨_, _, ⟨_, alone⟩, _⟩
    exact alone
  · intro alone
    exact ⟨params, rfl, ⟨rfl, alone⟩, rfl⟩

end StrategyView

namespace StingerApp

def viewOf (sid : StrategyId) (app : StingerApp ρ π ν) : StrategyView π ν where
  listed := app.fullCfg.entryOf? sid
  runner := app.runners.get? sid
  strays := (app.strays.filter fun stray => decide (stray.1 = sid)).map Prod.snd
  account := app.strategyAccounts.get? sid

/-- The engine does what a configuration says. -/
structure Converged (lib : StrategyLibrary π ν) (app : StingerApp ρ π ν)
    (cfg : FullConfig ρ π) : Prop where
  strategies : ∀ sid, (app.viewOf sid).Serves lib (cfg.entryOf? sid)
  risk : app.risk = cfg.app.risk

/-- What the reloader will not touch is right already. -/
structure Covers (lib : StrategyLibrary π ν) (app : StingerApp ρ π ν)
    (new : FullConfig ρ π) : Prop where
  strategies : ∀ sid,
    (app.viewOf sid).Ready lib (app.fullCfg.entryOf? sid) (new.entryOf? sid)
  risk : app.fullCfg.app.risk = new.app.risk → app.risk = new.app.risk

/-- No runner that is astray works. -/
def Quiet (app : StingerApp ρ π ν) : Prop :=
  ∀ stray ∈ app.strays, stray.2.paused = true

theorem Quiet.viewOf {app : StingerApp ρ π ν} (quiet : app.Quiet)
    (sid : StrategyId) : (app.viewOf sid).Quiet := by
  intro r member
  rcases List.mem_map.mp member with ⟨stray, kept, rfl⟩
  exact quiet stray (List.mem_filter.mp kept).1

/-! ### What the callbacks do to a view -/

/-- Only one strategy is touched. -/
structure Local (sid : StrategyId) (app app' : StingerApp ρ π ν) : Prop where
  others : ∀ other, other ≠ sid → app'.viewOf other = app.viewOf other
  risk : app'.risk = app.risk

theorem Local.refl (sid : StrategyId) (app : StingerApp ρ π ν) :
    Local sid app app := ⟨fun _ _ => rfl, rfl⟩

theorem Local.trans {sid : StrategyId} {a b c : StingerApp ρ π ν}
    (one : Local sid a b) (two : Local sid b c) : Local sid a c :=
  ⟨fun other apart => (two.others other apart).trans (one.others other apart),
    two.risk.trans one.risk⟩

theorem viewOf_register (app : StingerApp ρ π ν) (sid other : StrategyId)
    (runner : LiveRunner ν) :
    (app.register sid runner).viewOf other =
      if other = sid then (app.viewOf other).registered runner
      else app.viewOf other := by
  unfold register viewOf StrategyView.registered
  dsimp only
  rw [Dict.get?_set, List.filter_append, List.map_append]
  by_cases same : other = sid
  · subst same
    simp [List.filter_map, Function.comp_def]
  · have flipped : sid ≠ other := fun h => same h.symm
    simp [same, flipped, List.filter_map, Function.comp_def]

theorem viewOf_route (app : StingerApp ρ π ν) (sid other : StrategyId)
    (account : AccountId) :
    (app.route sid account).viewOf other =
      if other = sid then (app.viewOf other).routed account
      else app.viewOf other := by
  unfold route viewOf StrategyView.routed
  dsimp only
  rw [Dict.get?_set]
  by_cases same : other = sid
  · rw [if_pos same, if_pos same]
  · rw [if_neg same, if_neg same]

/-- A runner whose flag or parameters change stays where it is. -/
theorem viewOf_setRunner (app : StingerApp ρ π ν) (sid other : StrategyId)
    (runner : LiveRunner ν) :
    ({ app with runners := app.runners.set sid runner } :
        StingerApp ρ π ν).viewOf other =
      if other = sid then (app.viewOf other).withRunner runner
      else app.viewOf other := by
  unfold viewOf StrategyView.withRunner
  dsimp only
  rw [Dict.get?_set]
  by_cases same : other = sid
  · rw [if_pos same, if_pos same]
  · rw [if_neg same, if_neg same]

section Callbacks

variable {lib : StrategyLibrary π ν} {trouble : StrategyId → Trouble}

theorem register_local (app : StingerApp ρ π ν) (sid : StrategyId)
    (runner : LiveRunner ν) : Local sid app (app.register sid runner) :=
  ⟨fun other apart => by rw [viewOf_register, if_neg apart], rfl⟩

theorem route_local (app : StingerApp ρ π ν) (sid : StrategyId)
    (account : AccountId) : Local sid app (app.route sid account) :=
  ⟨fun other apart => by rw [viewOf_route, if_neg apart], rfl⟩

theorem add_local (entry : StrategyEntry π) (app : StingerApp ρ π ν) :
    Local entry.id app (add lib trouble entry app).state := by
  unfold add
  split
  · exact .refl _ _
  · dsimp only
    split
    · exact .refl _ _
    · refine ⟨fun other apart => ?_, rfl⟩
      have flipped : entry.id ≠ other := fun h => apart h.symm
      simp [viewOf, List.filter_append, flipped]
    · exact (register_local _ _ _).trans (route_local _ _ _)
    · exact (register_local _ _ _).trans (route_local _ _ _)

theorem remove_local (sid : StrategyId) (app : StingerApp ρ π ν) :
    Local sid app (remove trouble sid app).state := by
  unfold remove
  split
  · exact .refl _ _
  · dsimp only
    split
    · refine ⟨fun other apart => ?_, rfl⟩
      simp [viewOf, Dict.get?_erase, apart]
    · refine ⟨fun other apart => ?_, rfl⟩
      simp [viewOf, Dict.get?_erase, apart]

theorem replace_local (entry : StrategyEntry π) (app : StingerApp ρ π ν) :
    Local entry.id app (replace lib trouble entry app).state := by
  unfold replace
  dsimp only
  split
  · exact remove_local _ _
  · exact (remove_local _ _).trans (add_local _ _)

theorem setRunner_local (app : StingerApp ρ π ν) (sid : StrategyId)
    (runner : LiveRunner ν) :
    Local sid app { app with runners := app.runners.set sid runner } :=
  ⟨fun other apart => by rw [viewOf_setRunner, if_neg apart], rfl⟩

theorem updateParams_local (sid : StrategyId) (raw : π)
    (app : StingerApp ρ π ν) :
    Local sid app (updateParams lib trouble sid raw app).state := by
  unfold updateParams
  split
  · exact .refl _ _
  · split
    · exact .refl _ _
    · exact setRunner_local _ _ _

theorem setEnabled_local (sid : StrategyId) (enabled : Bool)
    (app : StingerApp ρ π ν) :
    Local sid app (setEnabled lib trouble sid enabled app).state := by
  unfold setEnabled
  split
  · exact setRunner_local _ _ _
  · split
    · split
      · exact .refl _ _
      · rename_i entry listed
        have named := FullConfig.id_of_entryOf? listed
        subst named
        exact add_local _ _
    · exact .refl _ _

theorem changeAccount_local (sid : StrategyId) (account : AccountId)
    (app : StingerApp ρ π ν) :
    Local sid app (changeAccount trouble sid account app).state := by
  unfold changeAccount
  split
  · split
    · exact .refl _ _
    · exact route_local _ _ _
  · exact .refl _ _

/-! What a callback that does not raise has done. -/

theorem add_done {entry : StrategyEntry π} {app : StingerApp ρ π ν}
    (fine : (add lib trouble entry app).error = none) :
    ∃ params, lib.validate entry.classPath entry.params = .ok params ∧
      (add lib trouble entry app).state.viewOf entry.id =
        ((app.viewOf entry.id).registered
          ⟨entry.classPath, params, false⟩).routed entry.account := by
  unfold add at fine ⊢
  split at fine
  · cases fine
  · rename_i params valid
    refine ⟨params, valid, ?_⟩
    dsimp only at fine ⊢
    split at fine
    · cases fine
    · cases fine
    · cases fine
    · rw [viewOf_route, if_pos rfl, viewOf_register, if_pos rfl]

theorem remove_done {sid : StrategyId} {app : StingerApp ρ π ν}
    (fine : (remove trouble sid app).error = none) :
    ∃ account, (remove trouble sid app).state.viewOf sid =
      (app.viewOf sid).vacated account := by
  unfold remove at fine ⊢
  split at fine
  · rename_i unknown
    refine ⟨app.strategyAccounts.get? sid, ?_⟩
    simp [viewOf, unknown, StrategyView.vacated]
  · dsimp only at fine
    split at fine
    · cases fine
    · refine ⟨none, ?_⟩
      simp [viewOf, StrategyView.vacated]

theorem replace_done {entry : StrategyEntry π} {app : StingerApp ρ π ν}
    (fine : (replace lib trouble entry app).error = none) :
    ∃ params, lib.validate entry.classPath entry.params = .ok params ∧
      (replace lib trouble entry app).state.viewOf entry.id =
        ((app.viewOf entry.id).withRunner
          ⟨entry.classPath, params, false⟩).routed entry.account := by
  unfold replace at fine ⊢
  dsimp only at fine ⊢
  split at fine
  · cases fine
  · rename_i removed
    rcases remove_done removed with ⟨account, popped⟩
    rcases add_done fine with ⟨params, valid, added⟩
    refine ⟨params, valid, ?_⟩
    rw [added, popped]
    simp [StrategyView.vacated, StrategyView.registered, StrategyView.withRunner,
      StrategyView.routed]

theorem updateParams_done {sid : StrategyId} {raw : π} {app : StingerApp ρ π ν}
    (fine : (updateParams lib trouble sid raw app).error = none) :
    match (app.viewOf sid).runner with
    | none => (updateParams lib trouble sid raw app).state.viewOf sid =
        app.viewOf sid
    | some r => ∃ params, lib.validate r.classPath raw = .ok params ∧
        (updateParams lib trouble sid raw app).state.viewOf sid =
          (app.viewOf sid).withRunner { r with params := params } := by
  unfold updateParams at fine ⊢
  cases known : app.runners.get? sid with
  | none => simp [viewOf, known]
  | some runner =>
      simp only [viewOf, known] at fine ⊢
      cases valid : lib.validate runner.classPath raw with
      | error e =>
          rw [valid] at fine
          cases fine
      | ok params => exact ⟨params, rfl, by simp [StrategyView.withRunner]⟩

theorem setEnabled_known {sid : StrategyId} {enabled : Bool}
    {app : StingerApp ρ π ν} {r : LiveRunner ν}
    (known : (app.viewOf sid).runner = some r) :
    (setEnabled lib trouble sid enabled app).state.viewOf sid =
      (app.viewOf sid).withRunner { r with paused := !enabled } := by
  have found : app.runners.get? sid = some r := known
  unfold setEnabled
  rw [found]
  dsimp only
  rw [viewOf_setRunner, if_pos rfl]

theorem setEnabled_unknown {sid : StrategyId} {app : StingerApp ρ π ν}
    {entry : StrategyEntry π} (unknown : (app.viewOf sid).runner = none)
    (listed : (app.viewOf sid).listed = some entry)
    (fine : (setEnabled lib trouble sid true app).error = none) :
    ∃ params, lib.validate entry.classPath entry.params = .ok params ∧
      (setEnabled lib trouble sid true app).state.viewOf sid =
        ((app.viewOf sid).withRunner
          ⟨entry.classPath, params, false⟩).routed entry.account := by
  have absent : app.runners.get? sid = none := unknown
  have stored : app.fullCfg.entryOf? sid = some entry := listed
  have named := FullConfig.id_of_entryOf? stored
  subst named
  unfold setEnabled at fine ⊢
  rw [absent] at fine ⊢
  simp only [if_true, stored] at fine ⊢
  rcases add_done fine with ⟨params, valid, added⟩
  refine ⟨params, valid, ?_⟩
  rw [added]
  simp [StrategyView.registered, StrategyView.withRunner, unknown]

theorem setEnabled_idle {sid : StrategyId} {app : StingerApp ρ π ν}
    (unknown : (app.viewOf sid).runner = none) :
    (setEnabled lib trouble sid false app).state = app := by
  have absent : app.runners.get? sid = none := unknown
  unfold setEnabled
  rw [absent]
  rfl

theorem changeAccount_done {sid : StrategyId} {account : AccountId}
    {app : StingerApp ρ π ν}
    (fine : (changeAccount trouble sid account app).error = none) :
    (changeAccount trouble sid account app).state.viewOf sid =
      match (app.viewOf sid).runner with
      | none => app.viewOf sid
      | some _ => (app.viewOf sid).routed account := by
  unfold changeAccount at fine ⊢
  split at fine
  · rename_i hosted
    rw [if_pos hosted]
    cases known : app.runners.get? sid with
    | none => simp [viewOf, known]
    | some runner =>
        dsimp only
        rw [viewOf_route, if_pos rfl]
        simp [viewOf, known]
  · cases fine

end Callbacks

/-! ### One round of the walk -/

section Rounds

variable [DecidableEq π] {lib : StrategyLibrary π ν}
  {trouble : StrategyId → Trouble} {old new : FullConfig ρ π}

omit [DecidableEq π] in
theorem onlyIf_local {sid : StrategyId} {p : Progress (StingerApp ρ π ν)}
    {condition : Bool} {call : StingerApp ρ π ν → Attempt (StingerApp ρ π ν)}
    {label : String} (touches : Local sid p.state (call p.state).state) :
    Local sid p.state (p.onlyIf condition (·.safe call label)).state := by
  cases condition with
  | true =>
      rw [Progress.onlyIf_pos p rfl, Progress.safe_state]
      exact touches
  | false => exact .refl _ _

omit [DecidableEq π] in
theorem adjustEnabled_local (p : Progress (StingerApp ρ π ν)) (sid : StrategyId)
    (o n : StrategyEntry π) :
    Local sid p.state
      (adjustEnabled (reloadActions lib trouble) sid o n p).state :=
  onlyIf_local (setEnabled_local _ _ _)

theorem adjustParams_local (p : Progress (StingerApp ρ π ν)) (sid : StrategyId)
    (o n : StrategyEntry π) :
    Local sid p.state
      (adjustParams (reloadActions lib trouble) sid o n p).state :=
  onlyIf_local (updateParams_local _ _ _)

omit [DecidableEq π] in
theorem adjustAccount_local (p : Progress (StingerApp ρ π ν)) (sid : StrategyId)
    (o n : StrategyEntry π) :
    Local sid p.state
      (adjustAccount (reloadActions lib trouble) sid o n p).state :=
  onlyIf_local (changeAccount_local _ _ _)

theorem modifyEntry_local (p : Progress (StingerApp ρ π ν)) (sid : StrategyId) :
    Local sid p.state
      (modifyEntry (reloadActions lib trouble) old new p sid).state := by
  unfold modifyEntry
  split
  · rename_i o n was listed
    have named := FullConfig.id_of_entryOf? listed
    subst named
    split
    · exact .refl _ _
    · split
      · rw [Progress.safe_state]
        exact replace_local _ _
      · apply (adjustEnabled_local _ _ _ _).trans
        exact (adjustParams_local _ _ _ _).trans (adjustAccount_local _ _ _ _)
  · exact .refl _ _

theorem diffEntry_local (p : Progress (StingerApp ρ π ν)) (sid : StrategyId) :
    Local sid p.state
      (diffEntry (reloadActions lib trouble) old new p sid).state := by
  unfold diffEntry
  split
  · unfold removeEntry
    rw [Progress.safe_state]
    exact remove_local _ _
  · rename_i entry _ listed
    have named := FullConfig.id_of_entryOf? listed
    subst named
    rw [addEntry_of_listed _ _ listed]
    exact onlyIf_local (add_local _ _)
  · exact modifyEntry_local p sid
  · exact .refl _ _

/-- Errors stay. -/
theorem diffEntry_back (p : Progress (StingerApp ρ π ν)) (sid : StrategyId)
    (clean : (diffEntry (reloadActions lib trouble) old new p sid).result.errors =
      []) : p.result.errors = [] := by
  unfold diffEntry at clean
  split at clean
  · exact ((Progress.safe_errors _ _ _).mp clean).1
  · unfold addEntry at clean
    split at clean
    · exact clean
    · exact (Progress.onlyIf_done clean).1
  · unfold modifyEntry at clean
    split at clean
    · split at clean
      · exact clean
      · split at clean
        · exact ((Progress.safe_errors _ _ _).mp clean).1
        · have accounted := (Progress.onlyIf_done clean).1
          have swapped := (Progress.onlyIf_done accounted).1
          exact (Progress.onlyIf_done swapped).1
    · exact clean
  · exact clean

/-! What a round leaves when it does not raise. -/

omit [DecidableEq π] in
theorem removeEntry_serves {p : Progress (StingerApp ρ π ν)} {sid : StrategyId}
    (clean : (removeEntry (reloadActions lib trouble) p sid).result.errors = [])
    (quiet : (p.state.viewOf sid).Quiet) :
    ((removeEntry (reloadActions lib trouble) p sid).state.viewOf sid).Serves lib
      none := by
  have fine := ((Progress.safe_errors _ _ _).mp clean).2
  rcases remove_done fine with ⟨account, removed⟩
  have after : (removeEntry (reloadActions lib trouble) p sid).state.viewOf sid =
      (p.state.viewOf sid).vacated account := by
    rw [← removed]
    exact congrArg _ (Progress.safe_state _ _ _)
  rw [after]
  have gone : ((p.state.viewOf sid).vacated account).Quiet := quiet
  apply (StrategyView.active_nil_iff gone).mpr
  intro r absent
  cases absent

omit [DecidableEq π] in
theorem addEntry_serves {p : Progress (StingerApp ρ π ν)} {sid : StrategyId}
    {n : StrategyEntry π} (listed : new.entryOf? sid = some n)
    (clean : (addEntry (reloadActions lib trouble) new p sid).result.errors = [])
    (quiet : (p.state.viewOf sid).Quiet) :
    ((addEntry (reloadActions lib trouble) new p sid).state.viewOf sid).Serves lib
        (some n) ↔
      (p.state.viewOf sid).Vacant := by
  have named := FullConfig.id_of_entryOf? listed
  subst named
  rw [addEntry_of_listed _ _ listed] at clean ⊢
  rcases (Progress.onlyIf_done clean).2 with ⟨enabled, fine, after⟩ |
    ⟨idle, after⟩
  · rcases add_done fine with ⟨params, valid, added⟩
    have served := StrategyView.serves_registered quiet enabled valid
    rw [← added] at served
    rw [after]
    exact served
  · rw [after]
    exact StrategyView.serves_disabled quiet idle

section Adjust

variable {p : Progress (StingerApp ρ π ν)} {sid : StrategyId}
  {o n : StrategyEntry π} {r : LiveRunner ν}

omit [DecidableEq π] in
theorem adjustEnabled_known (known : (p.state.viewOf sid).runner = some r) :
    (adjustEnabled (reloadActions lib trouble) sid o n p).state.viewOf sid =
      (p.state.viewOf sid).withRunner
        { r with paused := if o.enabled = n.enabled then r.paused
            else !n.enabled } := by
  unfold adjustEnabled
  by_cases same : o.enabled = n.enabled
  · rw [Progress.onlyIf_neg _ (by simp [same]), if_pos same,
      StrategyView.withRunner_self known]
  · rw [Progress.onlyIf_pos _ (by simp [same]), if_neg same, Progress.safe_state]
    exact setEnabled_known known

omit [DecidableEq π] in
theorem adjustEnabled_idle (unknown : (p.state.viewOf sid).runner = none)
    (still : n.enabled = false ∨ o.enabled = true) :
    (adjustEnabled (reloadActions lib trouble) sid o n p).state = p.state := by
  unfold adjustEnabled
  by_cases same : o.enabled = n.enabled
  · rw [Progress.onlyIf_neg _ (by simp [same])]
  · rw [Progress.onlyIf_pos _ (by simp [same]), Progress.safe_state]
    have disabled : n.enabled = false := by
      rcases still with disabled | was
      · exact disabled
      · rw [was] at same
        exact Bool.eq_false_iff.mpr fun enabled => same enabled.symm
    rw [disabled]
    exact setEnabled_idle unknown

omit [DecidableEq π] in
/-- Enabling an entry without a runner adds it as the adopted snapshot has it. -/
theorem adjustEnabled_added (unknown : (p.state.viewOf sid).runner = none)
    (stored : (p.state.viewOf sid).listed = some o) (off : o.enabled = false)
    (enabled : n.enabled = true)
    (clean : (adjustEnabled (reloadActions lib trouble) sid o n
      p).result.errors = []) :
    ∃ params, lib.validate o.classPath o.params = .ok params ∧
      (adjustEnabled (reloadActions lib trouble) sid o n p).state.viewOf sid =
        ((p.state.viewOf sid).withRunner
          ⟨o.classPath, params, false⟩).routed o.account := by
  unfold adjustEnabled at clean ⊢
  have flips : (o.enabled != n.enabled) = true := by rw [off, enabled]; decide
  rw [Progress.onlyIf_pos _ flips, enabled] at clean ⊢
  rw [Progress.safe_state]
  exact setEnabled_unknown unknown stored ((Progress.safe_errors _ _ _).mp clean).2

theorem adjustParams_known (known : (p.state.viewOf sid).runner = some r)
    (enabled : n.enabled = true)
    (clean : (adjustParams (reloadActions lib trouble) sid o n p).result.errors =
      []) :
    ∃ params,
      (adjustParams (reloadActions lib trouble) sid o n p).state.viewOf sid =
        (p.state.viewOf sid).withRunner { r with params := params } ∧
      (o.params = n.params → params = r.params) ∧
      (o.params ≠ n.params → lib.validate r.classPath n.params = .ok params) := by
  rcases (Progress.onlyIf_done clean).2 with ⟨changed, fine, after⟩ |
    ⟨same, after⟩
  · have different : o.params ≠ n.params := by
      rw [Bool.and_eq_true, decide_eq_true_eq] at changed
      exact changed.1
    have done := updateParams_done fine
    rw [known] at done
    rcases done with ⟨params, valid, swapped⟩
    exact ⟨params, (congrArg _ after).trans swapped,
      fun equal => absurd equal different, fun _ => valid⟩
  · refine ⟨r.params, ?_, fun _ => rfl, ?_⟩
    · rw [StrategyView.withRunner_self known]
      exact congrArg (fun q => q.state.viewOf sid) after
    · intro different
      rw [enabled, Bool.and_true, decide_eq_false_iff_not, not_not] at same
      exact absurd same different

theorem adjustParams_idle
    (clean : (adjustParams (reloadActions lib trouble) sid o n p).result.errors =
      [])
    (still : (p.state.viewOf sid).runner = none ∨ n.enabled = false) :
    (adjustParams (reloadActions lib trouble) sid o n p).state.viewOf sid =
      p.state.viewOf sid := by
  rcases (Progress.onlyIf_done clean).2 with ⟨changed, fine, after⟩ |
    ⟨same, after⟩
  · rcases still with unknown | disabled
    · have done := updateParams_done fine
      rw [unknown] at done
      exact (congrArg _ after).trans done
    · rw [disabled, Bool.and_false] at changed
      cases changed
  · exact congrArg (fun q => q.state.viewOf sid) after

omit [DecidableEq π] in
theorem adjustAccount_known (known : (p.state.viewOf sid).runner = some r)
    (clean : (adjustAccount (reloadActions lib trouble) sid o n p).result.errors =
      []) :
    (adjustAccount (reloadActions lib trouble) sid o n p).state.viewOf sid =
      if o.account = n.account then p.state.viewOf sid
      else (p.state.viewOf sid).routed n.account := by
  rcases (Progress.onlyIf_done clean).2 with ⟨changed, fine, after⟩ |
    ⟨same, after⟩
  · have done := changeAccount_done fine
    rw [known] at done
    rw [if_neg (of_decide_eq_true changed)]
    exact (congrArg _ after).trans done
  · rw [if_pos (not_not.mp (of_decide_eq_false same))]
    exact congrArg (fun q => q.state.viewOf sid) after

omit [DecidableEq π] in
theorem adjustAccount_idle (unknown : (p.state.viewOf sid).runner = none)
    (clean : (adjustAccount (reloadActions lib trouble) sid o n p).result.errors =
      []) :
    (adjustAccount (reloadActions lib trouble) sid o n p).state.viewOf sid =
      p.state.viewOf sid := by
  rcases (Progress.onlyIf_done clean).2 with ⟨_, fine, after⟩ | ⟨_, after⟩
  · have done := changeAccount_done fine
    rw [unknown] at done
    exact (congrArg _ after).trans done
  · exact congrArg (fun q => q.state.viewOf sid) after

/-- Parameters and account of an enabled entry with a known runner. -/
theorem adjusted_serves (known : (p.state.viewOf sid).runner = some r)
    (quiet : (p.state.viewOf sid).Quiet) (enabled : n.enabled = true)
    (clean : (adjustAccount (reloadActions lib trouble) sid o n
      (adjustParams (reloadActions lib trouble) sid o n p)).result.errors = []) :
    ((adjustAccount (reloadActions lib trouble) sid o n
        (adjustParams (reloadActions lib trouble) sid o n p)).state.viewOf
        sid).Serves lib (some n) ↔
      r.paused = false ∧ r.classPath = n.classPath ∧
        (o.params = n.params →
          lib.validate n.classPath n.params = .ok r.params) ∧
        (o.account = n.account →
          (p.state.viewOf sid).account = some n.account) := by
  have swappedClean := (Progress.onlyIf_done clean).1
  rcases adjustParams_known known enabled swappedClean with
    ⟨params, swapped, same, valid⟩
  have runner : ((adjustParams (reloadActions lib trouble) sid o n p).state.viewOf
      sid).runner = some { r with params := params } := by
    rw [swapped]
    rfl
  have routed := adjustAccount_known runner clean
  rw [swapped] at routed
  have still : ((adjustAccount (reloadActions lib trouble) sid o n
      (adjustParams (reloadActions lib trouble) sid o n p)).state.viewOf
      sid).Quiet := by
    rw [routed]
    split <;> exact quiet
  have holds : ((adjustAccount (reloadActions lib trouble) sid o n
      (adjustParams (reloadActions lib trouble) sid o n p)).state.viewOf
      sid).runner = some { r with params := params } := by
    rw [routed]
    split <;> rfl
  have account : ((adjustAccount (reloadActions lib trouble) sid o n
      (adjustParams (reloadActions lib trouble) sid o n p)).state.viewOf
      sid).account =
      if o.account = n.account then (p.state.viewOf sid).account
      else some n.account := by
    rw [routed]
    split <;> rfl
  rw [StrategyView.serves_enabled still enabled, holds, account]
  constructor
  · rintro ⟨found, accepted, runs, pays⟩
    rw [Option.some.injEq, LiveRunner.mk.injEq] at runs
    rcases runs with ⟨classPath, rfl, working⟩
    refine ⟨working, classPath, fun equal => ?_, fun equal => ?_⟩
    · rw [← same equal]
      exact accepted
    · rwa [if_pos equal] at pays
  · rintro ⟨working, classPath, kept, pays⟩
    refine ⟨params, ?_, ?_, ?_⟩
    · by_cases equal : o.params = n.params
      · rw [same equal]
        exact kept equal
      · rw [← classPath]
        exact valid equal
    · rw [working, classPath]
    · split
      · rename_i equal
        exact pays equal
      · rfl

omit [DecidableEq π] in
theorem replaceEntry_serves {label : String} (listed : new.entryOf? sid = some n)
    (clean : (p.safe ((reloadActions lib trouble).replaceStrategy n)
      label).result.errors = [])
    (quiet : (p.state.viewOf sid).Quiet) :
    ((p.safe ((reloadActions lib trouble).replaceStrategy n)
        label).state.viewOf sid).Serves lib (some n) ↔ n.enabled = true := by
  have named := FullConfig.id_of_entryOf? listed
  subst named
  have fine := ((Progress.safe_errors _ _ _).mp clean).2
  rcases replace_done fine with ⟨params, valid, replaced⟩
  have after : (p.safe ((reloadActions lib trouble).replaceStrategy n)
      label).state.viewOf n.id =
      ((p.state.viewOf n.id).withRunner
        ⟨n.classPath, params, false⟩).routed n.account := by
    rw [← replaced]
    exact congrArg _ (Progress.safe_state _ _ _)
  rw [after]
  have still : (((p.state.viewOf n.id).withRunner
      ⟨n.classPath, params, false⟩).routed n.account).Quiet := quiet
  cases enabled : n.enabled with
  | true =>
      rw [StrategyView.serves_enabled still enabled]
      exact iff_of_true ⟨params, valid, rfl, rfl⟩ rfl
  | false =>
      rw [StrategyView.serves_disabled still enabled]
      refine iff_of_false (fun vacant => ?_) (by decide)
      cases vacant _ rfl

/-- An entry with a known runner that keeps its class. -/
theorem knownEntry_serves (known : (p.state.viewOf sid).runner = some r)
    (quiet : (p.state.viewOf sid).Quiet)
    (clean : (adjustAccount (reloadActions lib trouble) sid o n
      (adjustParams (reloadActions lib trouble) sid o n
        (adjustEnabled (reloadActions lib trouble) sid o n
          p))).result.errors = []) :
    ((adjustAccount (reloadActions lib trouble) sid o n
        (adjustParams (reloadActions lib trouble) sid o n
          (adjustEnabled (reloadActions lib trouble) sid o n p))).state.viewOf
        sid).Serves lib (some n) ↔
      if n.enabled then (p.state.viewOf sid).Kept lib o n r
      else o.enabled = false → r.paused = true := by
  have flagged : (adjustEnabled (reloadActions lib trouble) sid o n
      p).state.viewOf sid = (p.state.viewOf sid).withRunner
        { r with paused := if o.enabled = n.enabled then r.paused
            else !n.enabled } := adjustEnabled_known known
  have runner : ((adjustEnabled (reloadActions lib trouble) sid o n
      p).state.viewOf sid).runner =
        some { r with paused := if o.enabled = n.enabled then r.paused
                 else !n.enabled } := by
    rw [flagged]
    rfl
  have still : ((adjustEnabled (reloadActions lib trouble) sid o n
      p).state.viewOf sid).Quiet := by
    rw [flagged]
    exact quiet
  cases enabled : n.enabled with
  | true =>
      rw [adjusted_serves runner still enabled clean, flagged, enabled]
      simp only [if_true, StrategyView.withRunner_account]
      constructor
      · rintro ⟨working, classPath, params, account⟩
        refine ⟨fun on => ?_, classPath, params, account⟩
        rwa [if_pos on] at working
      · rintro ⟨working, classPath, params, account⟩
        refine ⟨?_, classPath, params, account⟩
        split
        · rename_i on
          exact working on
        · rfl
  | false =>
      have swapped := adjustParams_idle (Progress.onlyIf_done clean).1
        (.inr enabled)
      rw [← swapped] at runner still
      have routed := adjustAccount_known runner clean
      have quietly : ((adjustAccount (reloadActions lib trouble) sid o n
          (adjustParams (reloadActions lib trouble) sid o n
            (adjustEnabled (reloadActions lib trouble) sid o n p))).state.viewOf
          sid).Quiet := by
        rw [routed]
        split <;> exact still
      have holds : ((adjustAccount (reloadActions lib trouble) sid o n
          (adjustParams (reloadActions lib trouble) sid o n
            (adjustEnabled (reloadActions lib trouble) sid o n p))).state.viewOf
          sid).runner =
            some { r with paused := if o.enabled = n.enabled then r.paused
                     else !n.enabled } := by
        rw [routed, ← runner]
        split <;> rfl
      rw [StrategyView.serves_disabled quietly enabled]
      unfold StrategyView.Vacant
      rw [holds, enabled]
      simp only [Option.some.injEq, forall_eq', Bool.false_eq_true, if_false]
      cases o.enabled with
      | true => simp
      | false => simp

/-- An entry without a runner that keeps its class. -/
theorem unknownEntry_serves (unknown : (p.state.viewOf sid).runner = none)
    (stored : (p.state.viewOf sid).listed = some o)
    (same : o.classPath = n.classPath) (quiet : (p.state.viewOf sid).Quiet)
    (clean : (adjustAccount (reloadActions lib trouble) sid o n
      (adjustParams (reloadActions lib trouble) sid o n
        (adjustEnabled (reloadActions lib trouble) sid o n
          p))).result.errors = []) :
    ((adjustAccount (reloadActions lib trouble) sid o n
        (adjustParams (reloadActions lib trouble) sid o n
          (adjustEnabled (reloadActions lib trouble) sid o n p))).state.viewOf
        sid).Serves lib (some n) ↔ (n.enabled = true → o.enabled = false) := by
  have swappedClean := (Progress.onlyIf_done clean).1
  have flaggedClean := (Progress.onlyIf_done swappedClean).1
  by_cases still : n.enabled = false ∨ o.enabled = true
  · -- nothing is started: the view stays what it was
    have flagged : (adjustEnabled (reloadActions lib trouble) sid o n
        p).state.viewOf sid = p.state.viewOf sid :=
      congrArg _ (adjustEnabled_idle unknown still)
    have none := unknown
    rw [← flagged] at none
    have swapped := adjustParams_idle swappedClean (.inl none)
    rw [← swapped] at none
    have routed := adjustAccount_idle none clean
    rw [routed, swapped, flagged]
    cases enabled : n.enabled with
    | false =>
        rw [StrategyView.serves_disabled quiet enabled]
        refine iff_of_true (fun r known => ?_) (fun on => absurd on (by decide))
        rw [unknown] at known
        cases known
    | true =>
        rw [enabled, Bool.true_eq_false, false_or] at still
        rw [StrategyView.serves_enabled quiet enabled, unknown, still]
        simp
  · -- the adopted entry is added, and then adjusted to the new one
    rw [not_or, Bool.not_eq_false, Bool.not_eq_true] at still
    rcases still with ⟨enabled, off⟩
    rcases adjustEnabled_added unknown stored off enabled flaggedClean with
      ⟨params, valid, flagged⟩
    have runner : ((adjustEnabled (reloadActions lib trouble) sid o n
        p).state.viewOf sid).runner = some ⟨o.classPath, params, false⟩ := by
      rw [flagged]
      rfl
    have calm : ((adjustEnabled (reloadActions lib trouble) sid o n
        p).state.viewOf sid).Quiet := by
      rw [flagged]
      exact quiet
    rw [adjusted_serves runner calm enabled clean, flagged]
    refine iff_of_true ⟨rfl, same, fun equal => ?_, fun equal => ?_⟩
      fun _ => off
    · rw [← same, ← equal]
      exact valid
    · rw [StrategyView.routed_account, equal]

theorem modifyEntry_serves (was : old.entryOf? sid = some o)
    (listed : new.entryOf? sid = some n)
    (stored : (p.state.viewOf sid).listed = some o)
    (clean :
      (modifyEntry (reloadActions lib trouble) old new p sid).result.errors = [])
    (quiet : (p.state.viewOf sid).Quiet) :
    ((modifyEntry (reloadActions lib trouble) old new p sid).state.viewOf
        sid).Serves lib (some n) ↔
      (p.state.viewOf sid).Ready lib (some o) (some n) := by
  by_cases same : o.classPath = n.classPath
  case neg =>
    rw [modifyEntry_replaced _ _ was listed same] at clean ⊢
    rw [replaceEntry_serves listed clean quiet]
    simp only [StrategyView.Ready, same, if_false]
  rw [modifyEntry_adjusted _ _ was listed same] at clean ⊢
  simp only [StrategyView.Ready, same, if_true]
  cases known : (p.state.viewOf sid).runner with
  | some r =>
      rw [knownEntry_serves known quiet clean]
      unfold StrategyView.Vacant
      rw [known]
      simp only [Option.some.injEq, forall_eq']
  | none =>
      rw [unknownEntry_serves known stored same quiet clean]
      unfold StrategyView.Vacant
      rw [known]
      cases n.enabled <;> simp

end Adjust

theorem diffEntry_serves {p : Progress (StingerApp ρ π ν)} {sid : StrategyId}
    (stored : (p.state.viewOf sid).listed = old.entryOf? sid)
    (clean :
      (diffEntry (reloadActions lib trouble) old new p sid).result.errors = [])
    (quiet : (p.state.viewOf sid).Quiet) :
    ((diffEntry (reloadActions lib trouble) old new p sid).state.viewOf
        sid).Serves lib (new.entryOf? sid) ↔
      (p.state.viewOf sid).Ready lib (old.entryOf? sid) (new.entryOf? sid) := by
  unfold diffEntry at clean ⊢
  cases was : old.entryOf? sid with
  | none =>
      cases listed : new.entryOf? sid with
      | none => exact StrategyView.active_nil_iff quiet
      | some n =>
          rw [was, listed] at clean
          exact addEntry_serves listed clean quiet
  | some o =>
      rw [was] at stored
      cases listed : new.entryOf? sid with
      | none =>
          rw [was, listed] at clean
          exact iff_of_true (removeEntry_serves clean quiet) trivial
      | some n =>
          rw [was, listed] at clean
          exact modifyEntry_serves was listed stored clean quiet

end Rounds

/-! ### The whole reload -/

section Reload

variable [DecidableEq ρ] [DecidableEq π] {lib : StrategyLibrary π ν}
  {trouble : StrategyId → Trouble} {app : StingerApp ρ π ν}
  {new : FullConfig ρ π} {order : List StrategyId}

omit [DecidableEq π] in
variable (lib trouble app new) in
/-- The application section leaves the strategies alone. Unless the type of the
first broker changes, it hands a changed risk section over. -/
theorem diffApp_state (old : FullConfig ρ π) :
    ∃ level, (diffApp (reloadActions lib trouble) old.app new.app
        (.start app)).state =
      { app with
        logLevel := level
        risk :=
          if old.app.primary.type = new.app.primary.type then
            if old.app.risk = new.app.risk then app.risk else new.app.risk
          else app.risk } := by
  unfold diffApp
  by_cases same : old.app.primary.type = new.app.primary.type
  · rw [if_neg (not_not.mpr same), if_pos same]
    simp only [Progress.onlyIf_restart_state, Progress.onlyIf_safe_state,
      reloadActions, Progress.start]
    by_cases level : old.app.logLevel = new.app.logLevel
    · by_cases risk : old.app.risk = new.app.risk
      · exact ⟨app.logLevel, by simp [level, risk]⟩
      · exact ⟨app.logLevel, by simp [level, risk]⟩
    · by_cases risk : old.app.risk = new.app.risk
      · exact ⟨new.app.logLevel, by simp [level, risk]⟩
      · exact ⟨new.app.logLevel, by simp [level, risk]⟩
  · rw [if_pos same, if_neg same]
    exact ⟨app.logLevel, rfl⟩

theorem applyChanges_eq :
    app.applyChanges lib new order trouble =
      (walk app.fullCfg new order).foldl
        (diffEntry (reloadActions lib trouble) app.fullCfg new)
        (diffApp (reloadActions lib trouble) app.fullCfg.app new.app
          (.start app)) :=
  diffStrategies_eq _ _ _

omit [DecidableEq ρ] in
theorem walk_risk (keys : List StrategyId) (p : Progress (StingerApp ρ π ν)) :
    (keys.foldl (diffEntry (reloadActions lib trouble) app.fullCfg new)
      p).state.risk = p.state.risk := by
  induction keys generalizing p with
  | nil => rfl
  | cons sid keys ih =>
      rw [List.foldl_cons, ih]
      exact (diffEntry_local p sid).risk

theorem applyChanges_risk
    (same : app.fullCfg.app.primary.type = new.app.primary.type) :
    (app.applyChanges lib new order trouble).state.risk =
      if app.fullCfg.app.risk = new.app.risk then app.risk else new.app.risk := by
  rw [applyChanges_eq, walk_risk]
  rcases diffApp_state lib trouble app new app.fullCfg with ⟨level, after⟩
  rw [after]
  exact if_pos same

/-- What one round makes of its strategy. -/
def RoundEffect (lib : StrategyLibrary π ν) (old new : FullConfig ρ π)
    (sid : StrategyId) (v v' : StrategyView π ν) : Prop :=
  v.listed = old.entryOf? sid → v.Quiet →
    (v'.Serves lib (new.entryOf? sid) ↔
      v.Ready lib (old.entryOf? sid) (new.entryOf? sid))

omit [DecidableEq ρ] in
theorem walk_effect {old : FullConfig ρ π} {keys : List StrategyId}
    (unique : keys.Nodup) {sid : StrategyId} (met : sid ∈ keys)
    {p : Progress (StingerApp ρ π ν)}
    (clean : (keys.foldl (diffEntry (reloadActions lib trouble) old new)
      p).result.errors = []) :
    RoundEffect lib old new sid (p.state.viewOf sid)
      ((keys.foldl (diffEntry (reloadActions lib trouble) old new)
        p).state.viewOf sid) := by
  have frame : ∀ (q : Progress (StingerApp ρ π ν)) (key other : StrategyId),
      other ≠ key →
        (diffEntry (reloadActions lib trouble) old new q key).state.viewOf other =
          q.state.viewOf other :=
    fun q key other apart => (diffEntry_local q key).others other apart
  have back : ∀ (q : Progress (StingerApp ρ π ν)) (key : StrategyId),
      (diffEntry (reloadActions lib trouble) old new q key).result.errors = [] →
        q.result.errors = [] :=
    fun q key good => diffEntry_back q key good
  have effect : ∀ (q : Progress (StingerApp ρ π ν)) (key : StrategyId),
      (diffEntry (reloadActions lib trouble) old new q key).result.errors = [] →
        RoundEffect lib old new key (q.state.viewOf key)
          ((diffEntry (reloadActions lib trouble) old new q key).state.viewOf
            key) := by
    intro q key good stored quiet
    exact diffEntry_serves stored good quiet
  exact foldl_pointwise
    (fun key (q : Progress (StingerApp ρ π ν)) => q.state.viewOf key)
    (fun q => q.result.errors = []) frame back effect unique met clean

omit [DecidableEq ρ] [DecidableEq π] in
/-- The walk meets every strategy that either snapshot lists. -/
theorem unlisted (covered : app.Enumerates new order) {sid : StrategyId}
    (skipped : sid ∉ walk app.fullCfg new order) :
    app.fullCfg.entryOf? sid = none ∧ new.entryOf? sid = none := by
  rw [mem_walk, not_and_or] at skipped
  rcases skipped with absent | neither
  · constructor
    · cases was : app.fullCfg.entryOf? sid with
      | none => rfl
      | some entry =>
          rcases StrategiesConfig.mem_of_byId was with ⟨member, rfl⟩
          exact absurd (covered.2.1 entry member) absent
    · cases listed : new.entryOf? sid with
      | none => rfl
      | some entry =>
          rcases StrategiesConfig.mem_of_byId listed with ⟨member, rfl⟩
          exact absurd (covered.2.2 entry member) absent
  · simpa using neither

theorem applyChanges_serves
    (covered : app.Enumerates new order)
    (clean : (app.applyChanges lib new order trouble).result.errors = [])
    (quiet : app.Quiet) (sid : StrategyId) :
    ((app.applyChanges lib new order trouble).state.viewOf sid).Serves lib
        (new.entryOf? sid) ↔
      (app.viewOf sid).Ready lib (app.fullCfg.entryOf? sid) (new.entryOf? sid) := by
  rw [applyChanges_eq] at clean ⊢
  rcases diffApp_state lib trouble app new app.fullCfg with ⟨level, after⟩
  have start : (diffApp (reloadActions lib trouble) app.fullCfg.app
      new.app (.start app)).state.viewOf sid = app.viewOf sid := by
    rw [after]
    rfl
  rw [← start]
  have calm : ((diffApp (reloadActions lib trouble) app.fullCfg.app
      new.app (.start app)).state.viewOf sid).Quiet := by
    rw [start]
    exact quiet.viewOf sid
  by_cases met : sid ∈ walk app.fullCfg new order
  · apply walk_effect (nodup_walk app.fullCfg new covered.1) met clean
    · rw [start]
      rfl
    · exact calm
  · -- neither snapshot lists the strategy, so nothing reaches it
    rcases unlisted covered met with ⟨was, listed⟩
    have frame : ∀ (q : Progress (StingerApp ρ π ν)) (key other : StrategyId),
        other ≠ key →
          (diffEntry (reloadActions lib trouble) app.fullCfg new q
            key).state.viewOf other = q.state.viewOf other :=
      fun q key other apart => (diffEntry_local q key).others other apart
    rw [foldl_unseen
      (fun key (q : Progress (StingerApp ρ π ν)) => q.state.viewOf key) frame met,
      was, listed]
    exact StrategyView.active_nil_iff calm

variable (lib trouble app new order) in
theorem onConfigChange_viewOf (sid : StrategyId) :
    ((app.onConfigChange lib new order trouble).viewOf sid).active =
        ((app.applyChanges lib new order trouble).state.viewOf sid).active ∧
      ((app.onConfigChange lib new order trouble).viewOf sid).account =
        ((app.applyChanges lib new order trouble).state.viewOf sid).account := by
  unfold onConfigChange
  dsimp only
  split <;> exact ⟨rfl, rfl⟩

theorem onConfigChange_serves (sid : StrategyId)
    (entry : Option (StrategyEntry π)) :
    ((app.onConfigChange lib new order trouble).viewOf sid).Serves lib entry ↔
      ((app.applyChanges lib new order trouble).state.viewOf sid).Serves lib
        entry := by
  rcases onConfigChange_viewOf lib trouble app new order sid with
    ⟨active, account⟩
  unfold StrategyView.Serves
  rw [active, account]

theorem onConfigChange_risk :
    (app.onConfigChange lib new order trouble).risk =
      (app.applyChanges lib new order trouble).state.risk := by
  unfold onConfigChange
  dsimp only
  split <;> rfl

theorem onConfigChange_strays :
    (app.onConfigChange lib new order trouble).strays =
      (app.applyChanges lib new order trouble).state.strays := by
  unfold onConfigChange
  dsimp only
  split <;> rfl

/-- One reload, among paused strays. -/
theorem reload_converged_iff (covered : app.Enumerates new order)
    (clean : (app.applyChanges lib new order trouble).result.ok = true)
    (sameType : app.fullCfg.app.primary.type = new.app.primary.type)
    (quiet : app.Quiet) :
    (app.onConfigChange lib new order trouble).Converged lib new ↔
      app.Covers lib new := by
  have noErrors := List.isEmpty_iff.mp clean
  constructor
  · intro converged
    constructor
    · intro sid
      rw [← applyChanges_serves covered noErrors quiet sid,
        ← onConfigChange_serves]
      exact converged.strategies sid
    · intro same
      have risk := converged.risk
      rwa [onConfigChange_risk, applyChanges_risk sameType, if_pos same] at risk
  · intro ready
    constructor
    · intro sid
      rw [onConfigChange_serves, applyChanges_serves covered noErrors quiet sid]
      exact ready.strategies sid
    · rw [onConfigChange_risk, applyChanges_risk sameType]
      split
      · rename_i same
        exact ready.risk same
      · rfl

end Reload

/-! ### Strays stay paused -/

section Strays

variable {lib : StrategyLibrary π ν} {trouble : StrategyId → Trouble}
  {app : StingerApp ρ π ν}

theorem register_quiet (quiet : app.Quiet) {sid : StrategyId}
    (vacant : (app.viewOf sid).Vacant) (runner : LiveRunner ν) :
    (app.register sid runner).Quiet := by
  intro stray member
  rcases List.mem_append.mp member with before | replaced
  · exact quiet stray before
  · rcases List.mem_map.mp replaced with ⟨r, known, rfl⟩
    exact vacant r (Option.mem_toList.mp known)

theorem add_quiet (quiet : app.Quiet) {entry : StrategyEntry π}
    (vacant : (app.viewOf entry.id).Vacant)
    (calm : ∀ text, (trouble entry.id).add ≠ some (.abandoned text)) :
    (add lib trouble entry app).state.Quiet := by
  unfold add
  split
  · exact quiet
  · rename_i params _
    have registered := register_quiet quiet vacant ⟨entry.classPath, params, false⟩
    dsimp only
    split
    · exact quiet
    · rename_i text abandoned
      exact absurd abandoned (calm text)
    · exact registered
    · exact registered

theorem remove_quiet (quiet : app.Quiet) (sid : StrategyId) :
    (remove trouble sid app).state.Quiet := by
  unfold remove
  split
  · exact quiet
  · dsimp only
    split <;> exact quiet

theorem replace_quiet (quiet : app.Quiet) {entry : StrategyEntry π}
    (calm : ∀ text, (trouble entry.id).add ≠ some (.abandoned text)) :
    (replace lib trouble entry app).state.Quiet := by
  unfold replace
  dsimp only
  split
  · exact remove_quiet quiet _
  · rename_i fine
    apply add_quiet (remove_quiet quiet _) _ calm
    rcases remove_done fine with ⟨account, removed⟩
    rw [removed]
    intro r absent
    cases absent

theorem updateParams_quiet (quiet : app.Quiet) (sid : StrategyId) (raw : π) :
    (updateParams lib trouble sid raw app).state.Quiet := by
  unfold updateParams
  split
  · exact quiet
  · split <;> exact quiet

theorem setEnabled_quiet (quiet : app.Quiet) {sid : StrategyId} (enabled : Bool)
    (calm : ∀ text, (trouble sid).add ≠ some (.abandoned text)) :
    (setEnabled lib trouble sid enabled app).state.Quiet := by
  unfold setEnabled
  split
  · exact quiet
  · rename_i unknown
    split
    · split
      · exact quiet
      · rename_i entry listed
        have named := FullConfig.id_of_entryOf? listed
        subst named
        apply add_quiet quiet _ calm
        intro r known
        have found : app.runners.get? entry.id = some r := known
        rw [unknown] at found
        cases found
    · exact quiet

theorem changeAccount_quiet (quiet : app.Quiet) (sid : StrategyId)
    (account : AccountId) :
    (changeAccount trouble sid account app).state.Quiet := by
  unfold changeAccount
  split
  · split <;> exact quiet
  · exact quiet

theorem onlyIf_quiet {p : Progress (StingerApp ρ π ν)} {condition : Bool}
    {call : StingerApp ρ π ν → Attempt (StingerApp ρ π ν)} {label : String}
    (quiet : p.state.Quiet) (keeps : (call p.state).state.Quiet) :
    (p.onlyIf condition (·.safe call label)).state.Quiet := by
  rw [Progress.onlyIf_safe_state]
  split
  · exact keeps
  · exact quiet

variable [DecidableEq π] {old new : FullConfig ρ π}

theorem diffEntry_quiet {p : Progress (StingerApp ρ π ν)} {sid : StrategyId}
    (quiet : p.state.Quiet)
    (vacant : ∀ entry, old.entryOf? sid = none → new.entryOf? sid = some entry →
      entry.enabled = true → (p.state.viewOf sid).Vacant)
    (calm : ∀ text, (trouble sid).add ≠ some (.abandoned text)) :
    (diffEntry (reloadActions lib trouble) old new p sid).state.Quiet := by
  unfold diffEntry
  split
  · exact (Progress.safe_state _ _ _).symm ▸ remove_quiet quiet sid
  · rename_i entry was listed
    have named := FullConfig.id_of_entryOf? listed
    subst named
    rw [addEntry_of_listed _ _ listed, Progress.onlyIf_safe_state]
    split
    · rename_i enabled
      exact add_quiet quiet (vacant entry was listed enabled) calm
    · exact quiet
  · rename_i o n was listed
    have named := FullConfig.id_of_entryOf? listed
    subst named
    by_cases same : o.classPath = n.classPath
    · rw [modifyEntry_adjusted _ _ was listed same]
      have flagged : (adjustEnabled (reloadActions lib trouble) n.id o n
          p).state.Quiet := onlyIf_quiet quiet (setEnabled_quiet quiet _ calm)
      have swapped : (adjustParams (reloadActions lib trouble) n.id o n
          (adjustEnabled (reloadActions lib trouble) n.id o n p)).state.Quiet :=
        onlyIf_quiet flagged (updateParams_quiet flagged _ _)
      exact onlyIf_quiet swapped (changeAccount_quiet swapped _ _)
    · rw [modifyEntry_replaced _ _ was listed same, Progress.safe_state]
      exact replace_quiet quiet calm
  · exact quiet

end Strays

/-! ### A fresh start -/

section Setup

variable {lib : StrategyLibrary π ν}

/-- What the loop over the entries of a configuration has built. -/
structure Built (lib : StrategyLibrary π ν) (app app' : StingerApp ρ π ν)
    (entries : List (StrategyEntry π)) : Prop where
  strays : app'.strays = app.strays
  fullCfg : app'.fullCfg = app.fullCfg
  strategyAccounts : app'.strategyAccounts = app.strategyAccounts
  risk : app'.risk = app.risk
  others : ∀ sid, (∀ entry ∈ entries, entry.id ≠ sid) →
    app'.runners.get? sid = app.runners.get? sid
  built : ∀ entry ∈ entries,
    if entry.enabled then
      ∃ params, lib.validate entry.classPath entry.params = .ok params ∧
        app'.runners.get? entry.id = some ⟨entry.classPath, params, false⟩
    else app'.runners.get? entry.id = none

/-- One round concerns its own entry. -/
theorem setupEntry_built {app app' : StingerApp ρ π ν} {entry : StrategyEntry π}
    (done : setupEntry lib app entry = .ok app')
    (fresh : app.runners.get? entry.id = none) :
    Built lib app app' [entry] := by
  unfold setupEntry at done
  split at done
  · rename_i enabled
    split at done
    · cases done
    · rename_i params valid
      cases done
      refine ⟨?_, rfl, rfl, rfl, ?_, ?_⟩
      · simp [register, fresh]
      · intro sid others
        exact Dict.get?_set_of_ne _ _
          (others entry (List.mem_singleton_self _)).symm
      · intro found member
        cases List.mem_singleton.mp member
        rw [if_pos enabled]
        exact ⟨params, valid, Dict.get?_set_self _ _ _⟩
  · rename_i disabled
    cases done
    refine ⟨rfl, rfl, rfl, rfl, fun _ _ => rfl, ?_⟩
    intro found member
    cases List.mem_singleton.mp member
    rw [if_neg disabled]
    exact fresh

theorem setupEntries_built {entries : List (StrategyEntry π)}
    {app app' : StingerApp ρ π ν} (unique : (entries.map (·.id)).Nodup)
    (done : entries.foldlM (setupEntry lib) app = .ok app')
    (fresh : ∀ entry ∈ entries, app.runners.get? entry.id = none) :
    Built lib app app' entries := by
  induction entries generalizing app with
  | nil =>
      cases done
      exact ⟨rfl, rfl, rfl, rfl, fun _ _ => rfl, fun _ absent => nomatch absent⟩
  | cons entry entries ih =>
      rw [List.map_cons, List.nodup_cons] at unique
      rw [List.foldlM_cons] at done
      cases first : setupEntry lib app entry with
      | error e =>
          rw [first] at done
          cases done
      | ok middle =>
          rw [first] at done
          have head := setupEntry_built first (fresh entry List.mem_cons_self)
          have apart : ∀ other ∈ entries, entry.id ≠ other.id :=
            fun other member same =>
              unique.1 (same ▸ List.mem_map.mpr ⟨other, member, rfl⟩)
          have only : ∀ sid, entry.id ≠ sid →
              middle.runners.get? sid = app.runners.get? sid := by
            intro sid other
            apply head.others
            intro found member
            cases List.mem_singleton.mp member
            exact other
          have tail := ih unique.2 done fun other member => by
            rw [only _ (apart other member)]
            exact fresh other (List.mem_cons_of_mem _ member)
          refine ⟨tail.strays.trans head.strays, tail.fullCfg.trans head.fullCfg,
            tail.strategyAccounts.trans head.strategyAccounts,
            tail.risk.trans head.risk, ?_, ?_⟩
          · intro sid others
            rw [tail.others sid fun other member =>
              others other (List.mem_cons_of_mem _ member)]
            exact only sid (others entry List.mem_cons_self)
          · intro found member
            rcases List.mem_cons.mp member with rfl | later
            · rw [tail.others found.id fun other inside =>
                (apart other inside).symm]
              exact head.built found (List.mem_singleton_self _)
            · exact tail.built found later

variable {cfg : FullConfig ρ π} {app : StingerApp ρ π ν}

theorem setup_built (started : setup lib cfg = .ok app) :
    Built lib (blank cfg) app cfg.strategies.strategies := by
  unfold setup at started
  dsimp only at started
  split at started
  · cases started
  · exact setupEntries_built cfg.strategies.ids_nodup started fun _ _ => rfl

theorem setup_quiet (started : setup lib cfg = .ok app) : app.Quiet := by
  intro stray member
  rw [(setup_built started).strays] at member
  cases member

/-- A fresh start does what its configuration says. -/
theorem setup_converged (started : setup lib cfg = .ok app) :
    app.Converged lib cfg := by
  have built := setup_built started
  have quiet := setup_quiet started
  refine ⟨fun sid => ?_, built.risk⟩
  cases listed : cfg.entryOf? sid with
  | none =>
      apply (StrategyView.active_nil_iff (quiet.viewOf sid)).mpr
      intro r known
      have absent : ∀ entry ∈ cfg.strategies.strategies, entry.id ≠ sid := by
        intro entry member same
        have stored : cfg.entryOf? sid = some entry := by
          apply (Dict.get?_eq_some_iff _).mpr
          exact List.mem_map.mpr ⟨entry, member, by rw [same]⟩
        rw [listed] at stored
        cases stored
      have found : app.runners.get? sid = some r := known
      rw [built.others sid absent] at found
      cases found
  | some entry =>
      rcases StrategiesConfig.mem_of_byId listed with ⟨member, rfl⟩
      have runner := built.built entry member
      cases enabled : entry.enabled with
      | true =>
          rw [enabled, if_pos rfl] at runner
          rcases runner with ⟨params, valid, known⟩
          rw [StrategyView.serves_enabled (quiet.viewOf _) enabled]
          refine ⟨params, valid, known, ?_⟩
          unfold viewOf
          dsimp only
          rw [built.strategyAccounts]
          apply (Dict.get?_eq_some_iff _).mpr
          exact List.mem_map.mpr ⟨entry, member, rfl⟩
      | false =>
          rw [enabled, if_neg (by decide)] at runner
          rw [StrategyView.serves_disabled (quiet.viewOf _) enabled]
          intro r known
          have found : app.runners.get? entry.id = some r := known
          rw [runner] at found
          cases found

end Setup

/-! ### Runs -/

section Runs

variable [DecidableEq ρ] [DecidableEq π] {lib : StrategyLibrary π ν}

/-- A reload adds no strategy beside a working runner of the same id, and no start
hook raises the quarantine error. -/
def AddsApart (app : StingerApp ρ π ν) : ReloadLabel ρ π → Prop
  | .loadFails => True
  | .reload new order trouble =>
      (∀ entry ∈ new.strategies.strategies,
        (app.fullCfg.entryOf? entry.id).isNone = true → entry.enabled = true →
          (app.viewOf entry.id).Vacant) ∧
      ∀ sid ∈ order,
        match (trouble sid).add with
        | some (.abandoned _) => False
        | _ => True

instance (app : StingerApp ρ π ν) (label : ReloadLabel ρ π) :
    Decidable (app.AddsApart label) := by
  cases label with
  | loadFails => exact inferInstanceAs (Decidable True)
  | reload new order trouble =>
      have calm : ∀ sid, Decidable
          (match (trouble sid).add with
          | some (.abandoned _) => False
          | _ => True) := by
        intro sid
        split <;> infer_instance
      exact instDecidableAnd

theorem quiet_step {app app' : StingerApp ρ π ν} {label : ReloadLabel ρ π}
    (apart : app.AddsApart label) (taken : Step lib app label app')
    (quiet : app.Quiet) : app'.Quiet := by
  cases label with
  | loadFails =>
      cases taken
      exact quiet
  | reload new order trouble =>
      unfold Step stepOf? at taken
      simp only [step?] at taken
      split at taken
      · rename_i covered
        cases taken
        have kept : (app.applyChanges lib new order trouble).state.Quiet := by
          rw [applyChanges_eq]
          rcases diffApp_state lib trouble app new app.fullCfg with
            ⟨level, after⟩
          have start : (diffApp (reloadActions lib trouble) app.fullCfg.app
              new.app (.start app)).state.Quiet := by
            rw [after]
            exact quiet
          have seen : ∀ sid, (diffApp (reloadActions lib trouble)
              app.fullCfg.app new.app (.start app)).state.viewOf sid =
                app.viewOf sid := by
            intro sid
            rw [after]
            rfl
          apply foldl_keyed_induct
            (fun key (q : Progress (StingerApp ρ π ν)) => q.state.viewOf key)
            (fun q => q.state.Quiet)
            (fun q key other differs => (diffEntry_local q key).others other
              differs)
            (nodup_walk app.fullCfg new covered.1) _ start
          intro q sid met same still
          apply diffEntry_quiet still
          · intro entry was listed enabled
            rw [same, seen]
            rcases StrategiesConfig.mem_of_byId listed with ⟨member, rfl⟩
            exact apart.1 entry member (by rw [was]; rfl) enabled
          · intro text abandoned
            have calm := apart.2 sid (mem_walk.mp met).1
            rw [abandoned] at calm
            exact calm
        intro stray member
        rw [onConfigChange_strays] at member
        exact kept stray member
      · cases taken

theorem step_reload {app : StingerApp ρ π ν} {new : FullConfig ρ π}
    {order : List StrategyId} {trouble : StrategyId → Trouble}
    (covered : app.Enumerates new order) :
    Step lib app (.reload new order trouble)
      (app.onConfigChange lib new order trouble) := by
  unfold Step stepOf?
  exact if_pos covered

/-- After a run in which strategies are only added apart from working runners, a
reload without an error, and without a restart for the risk section, converges if
and only if what it does not touch was right before. -/
theorem hot_reload_converges {cfg : FullConfig ρ π}
    {first app app' : StingerApp ρ π ν} {labels : List (ReloadLabel ρ π)}
    {new : FullConfig ρ π} {order : List StrategyId}
    {trouble : StrategyId → Trouble} (started : setup lib cfg = .ok first)
    (run : Run (Guarded AddsApart (Step lib)) first labels app)
    (taken : Step lib app (.reload new order trouble) app')
    (clean : (app.applyChanges lib new order trouble).result.ok = true)
    (sameType : app.fullCfg.app.primary.type = new.app.primary.type) :
    app'.Converged lib new ↔ app.Covers lib new := by
  have quiet : app.Quiet :=
    run.invariant (setup_quiet started)
      fun step still => quiet_step step.1 step.2 still
  unfold Step stepOf? at taken
  simp only [step?] at taken
  split at taken
  · rename_i covered
    cases taken
    exact reload_converged_iff covered clean sameType quiet
  · cases taken

end Runs

/-! ### A strategy that is switched off and on again -/

section Samples

/-- Parameters that every class takes as they are. -/
def plainLibrary : StrategyLibrary Nat Nat := ⟨fun _ raw => .ok raw⟩

def oneBroker : AppConfig Nat where
  mode := .normal
  primary := ⟨"default", .mt5, none, none⟩
  others := []
  dataDir := "./data"
  logLevel := .info
  timezone := "UTC"
  web := ⟨"127.0.0.1", 8765, by decide, by decide⟩
  risk := 5
  allowUnsafeInprocessMt5MultiAccount := false
  ids_nodup := by decide
  mt5_alone := .inl (by decide)

/-- One strategy, switched on or off, with some parameters. -/
def trendOnly (enabled : Bool) (params : Nat) : FullConfig Nat Nat where
  app := oneBroker
  strategies :=
    ⟨[⟨"trend", "pkg.trend:Trend", enabled, "default", params⟩],
      List.nodup_singleton _⟩

def smooth : StrategyId → Trouble := fun _ => .none

/-- The engine after a start with the strategy switched on. -/
def begun : StingerApp Nat Nat Nat :=
  (blank (trendOnly true 1)).register "trend" ⟨"pkg.trend:Trend", 1, false⟩

/-- The engine after it was switched off. -/
def switchedOff (params : Nat) : StingerApp Nat Nat Nat :=
  begun.onConfigChange plainLibrary (trendOnly false params) ["trend"] smooth

/-- The engine after it was switched on again. -/
def switchedOn (off on : Nat) : StingerApp Nat Nat Nat :=
  (switchedOff off).onConfigChange plainLibrary (trendOnly true on) ["trend"]
    smooth

theorem setup_begun : setup plainLibrary (trendOnly true 1) = .ok begun := rfl

theorem trend_enumerates {app : StingerApp Nat Nat Nat} {on off : Bool}
    {before after : Nat} (adopted : app.fullCfg = trendOnly on before) :
    app.Enumerates (trendOnly off after) ["trend"] := by
  refine ⟨List.nodup_singleton _, ?_, ?_⟩
  · intro entry member
    rw [adopted] at member
    cases List.mem_singleton.mp member
    exact List.mem_singleton_self _
  · intro entry member
    cases List.mem_singleton.mp member
    exact List.mem_singleton_self _

theorem step_switchedOff (params : Nat) :
    Step plainLibrary begun (.reload (trendOnly false params) ["trend"] smooth)
      (switchedOff params) := by
  have adopted : begun.fullCfg = trendOnly true 1 := rfl
  exact step_reload (trend_enumerates adopted)

theorem step_switchedOn {off : Nat} (on : Nat)
    (adopted : (switchedOff off).fullCfg = trendOnly false off) :
    Step plainLibrary (switchedOff off)
      (.reload (trendOnly true on) ["trend"] smooth) (switchedOn off on) :=
  step_reload (trend_enumerates adopted)

theorem adopted_unchanged : (switchedOff 1).fullCfg = trendOnly false 1 := rfl

theorem adopted_changed : (switchedOff 2).fullCfg = trendOnly false 2 := rfl

theorem runners_unchanged : (switchedOff 1).runners =
    begun.runners.set "trend" ⟨"pkg.trend:Trend", 1, true⟩ := rfl

theorem entry_trendOnly {sid : StrategyId} (apart : sid ≠ "trend")
    (enabled : Bool) (params : Nat) :
    (trendOnly enabled params).entryOf? sid = none := by
  have flipped : "trend" ≠ sid := fun h => apart h.symm
  simp [trendOnly, FullConfig.entryOf?, StrategiesConfig.byId, Dict.get?,
    Dict.lookup, flipped]

/-- With its parameters unchanged, the paused strategy agrees with its entry. -/
theorem covers_switchedOff :
    (switchedOff 1).Covers plainLibrary (trendOnly true 2) := by
  refine ⟨fun sid => ?_, fun _ => rfl⟩
  by_cases same : sid = "trend"
  · subst same
    refine ⟨fun on => ?_, rfl, fun equal => ?_, fun _ => rfl⟩
    · exact absurd on (by decide)
    · exact absurd equal (by decide)
  · rw [adopted_unchanged, entry_trendOnly same, entry_trendOnly same]
    intro r known
    have found : (switchedOff 1).runners.get? sid = some r := known
    rw [runners_unchanged, Dict.get?_set_of_ne _ _ same] at found
    have absent : begun.runners.get? sid = none :=
      Dict.get?_set_of_ne _ _ same
    rw [absent] at found
    cases found

/-- Switched off without a change of parameters, the strategy comes back with the
new ones. -/
theorem unchanged_while_off_converges :
    (switchedOn 1 2).Converged plainLibrary (trendOnly true 2) := by
  have apart : begun.AddsApart (.reload (trendOnly false 1) ["trend"] smooth) := by
    decide
  have clean : ((switchedOff 1).applyChanges plainLibrary (trendOnly true 2)
      ["trend"] smooth).result.ok = true := by
    decide
  rw [hot_reload_converges setup_begun (.single ⟨apart, step_switchedOff 1⟩)
    (step_switchedOn 2 adopted_unchanged) clean rfl]
  exact covers_switchedOff

/-- Without the proviso, parameters that change while a strategy is off are lost. -/
theorem paused_params_dropped :
    ¬ ∀ (cfg new : FullConfig Nat Nat) (first app app' : StingerApp Nat Nat Nat)
        (labels : List (ReloadLabel Nat Nat)) (order : List StrategyId)
        (trouble : StrategyId → Trouble),
        setup plainLibrary cfg = .ok first →
        Run (Step plainLibrary) first labels app →
        Step plainLibrary app (.reload new order trouble) app' →
        (app.applyChanges plainLibrary new order trouble).result.ok = true →
        app.fullCfg.app.primary.type = new.app.primary.type →
        app'.Converged plainLibrary new := by
  intro claim
  have converged := claim (trendOnly true 1) (trendOnly true 2) begun
    (switchedOff 2) (switchedOn 2 2) _ ["trend"] smooth setup_begun
    (.single (step_switchedOff 2)) (step_switchedOn 2 adopted_changed)
    (by decide) rfl
  rcases converged.strategies "trend" with ⟨params, valid, working, _⟩
  cases valid
  have old : ((switchedOn 2 2).viewOf "trend").active =
      [⟨"pkg.trend:Trend", 1, false⟩] := by decide
  rw [old] at working
  exact absurd working (by decide)

end Samples

end StingerApp

end StingerFx
