/-
Module: StingerFx.Runtime.HotReload
Layer: Runtime
Purpose: The engine's side of a hot reload: the callbacks that the reloader is given,
  and the handler that loads the files, lets the reloader apply what differs from
  the adopted snapshot, and adopts the new one as a whole when no callback raised.
  A runner is known by the class and the parameters that it works with and by
  whether it is paused; one that was stopped is inert and is not kept. A runner that
  subscribed to the bus without being registered, or whose place in the registry was
  taken by another, is astray: it works on, and nothing reaches it any more.
Trusted boundary: human-reviewed model of the source's reload callbacks; strategy
  classes and their parameter models are code of the user and stand behind
  `StrategyLibrary`, and which of their hooks raise comes with the reload's label
Main exports: StrategyLibrary, LiveRunner, Trouble, StingerApp, StingerApp.setup,
  StingerApp.reloadActions, StingerApp.onConfigChange, ReloadLabel,
  StingerApp.step?, StingerApp.Step
-/
import StingerFx.Brokers.BrokerPool
import StingerFx.Config.Reload
import StingerFx.Lib.Runs

namespace StingerFx

open Lib Config

/-- `load_strategy_class` and then `validate_params`: the parameters that the class
makes of the raw ones. -/
structure StrategyLibrary (π ν : Type) where
  validate : String → π → Except String ν

structure LiveRunner (ν : Type) where
  classPath : String
  params : ν
  paused : Bool
deriving Repr, DecidableEq

/-- Where adding a strategy can raise besides its validation. -/
inductive AddTrouble where
  /-- the constructor or the declaration of the feeds raises -/
  | refused (text : String)
  /-- `on_start` raises the quarantine error, which the runner lets through -/
  | abandoned (text : String)
  /-- a feed cannot be subscribed at the broker -/
  | unsubscribed (text : String)
deriving Repr, DecidableEq

/-- What raises while the callbacks for one strategy run. -/
structure Trouble where
  add : Option AddTrouble
  /-- `on_stop` raises the quarantine error -/
  stop : Option String
  /-- `on_params_reloaded` raises it -/
  paramsHook : Option String
  /-- the feeds cannot be subscribed at the new account's broker -/
  feeds : Option String
deriving Repr, DecidableEq

def Trouble.none : Trouble := ⟨.none, .none, .none, .none⟩

/-- The engine as far as reloads concern it. -/
structure StingerApp (ρ π ν : Type) where
  /-- the adopted snapshot -/
  fullCfg : FullConfig ρ π
  /-- the accounts that have a broker; fixed at startup -/
  pool : List AccountId
  runners : Dict StrategyId (LiveRunner ν)
  strays : List (StrategyId × LiveRunner ν)
  strategyAccounts : AccountMap
  /-- the risk monitor's configuration -/
  risk : ρ
  logLevel : LogLevel

namespace StingerApp

variable {ρ π ν : Type}

/-- A runner enters the registry, and whoever was there before is astray. -/
def register (app : StingerApp ρ π ν) (sid : StrategyId) (runner : LiveRunner ν) :
    StingerApp ρ π ν :=
  { app with
    runners := app.runners.set sid runner
    strays := app.strays ++ (app.runners.get? sid).toList.map fun r => (sid, r) }

/-- Route a strategy to an account. -/
def route (app : StingerApp ρ π ν) (sid : StrategyId) (account : AccountId) :
    StingerApp ρ π ν :=
  { app with strategyAccounts := app.strategyAccounts.set sid account }

/-! ### Startup -/

/-- One round of the loop that builds the strategies. -/
def setupEntry (lib : StrategyLibrary π ν) (app : StingerApp ρ π ν)
    (entry : StrategyEntry π) : Except String (StingerApp ρ π ν) :=
  if entry.enabled then
    match lib.validate entry.classPath entry.params with
    | .error e => .error e
    | .ok params =>
        .ok (app.register entry.id ⟨entry.classPath, params, false⟩)
  else .ok app

/-- The engine before its strategies are built. -/
def blank (cfg : FullConfig ρ π) : StingerApp ρ π ν where
  fullCfg := cfg
  pool := cfg.app.brokerList.map (·.id)
  runners := .empty
  strays := []
  strategyAccounts :=
    ⟨cfg.strategies.strategies.map fun entry => (entry.id, entry.account), by
      rw [List.map_map]
      exact cfg.strategies.ids_nodup⟩
  risk := cfg.app.risk
  logLevel := cfg.app.logLevel

/-- A list of names as it is printed. -/
def namesText (names : List String) : String :=
  "[" ++ ", ".intercalate (names.map fun name => "'" ++ name ++ "'") ++ "]"

/-- `setup`: an unknown account or a strategy that cannot be built ends it. -/
def setup (lib : StrategyLibrary π ν) (cfg : FullConfig ρ π) :
    Except String (StingerApp ρ π ν) :=
  let app : StingerApp ρ π ν := blank cfg
  match cfg.strategies.strategies.find? fun entry =>
      !app.pool.contains entry.account with
  | some entry =>
      .error
        ("strategy '" ++ entry.id ++ "' targets account '" ++ entry.account ++
          "' but no broker with that id is configured (known: " ++
          namesText (app.pool.mergeSort fun a b => decide (a ≤ b)) ++ ")")
  | none => cfg.strategies.strategies.foldlM (setupEntry lib) app

/-! ### The callbacks -/

section Callbacks

variable (lib : StrategyLibrary π ν) (trouble : StrategyId → Trouble)

def add (entry : StrategyEntry π) (app : StingerApp ρ π ν) :
    Attempt (StingerApp ρ π ν) :=
  match lib.validate entry.classPath entry.params with
  | .error e => ⟨app, some e⟩
  | .ok params =>
      let runner : LiveRunner ν := ⟨entry.classPath, params, false⟩
      match (trouble entry.id).add with
      | some (.refused e) => ⟨app, some e⟩
      | some (.abandoned e) =>
          ⟨{ app with strays := app.strays ++ [(entry.id, runner)] }, some e⟩
      | some (.unsubscribed e) =>
          ⟨(app.register entry.id runner).route entry.id entry.account, some e⟩
      | none =>
          ⟨(app.register entry.id runner).route entry.id entry.account, none⟩

/-- The runner leaves the registry before it is stopped, the routing entry after. -/
def remove (sid : StrategyId) (app : StingerApp ρ π ν) :
    Attempt (StingerApp ρ π ν) :=
  match app.runners.get? sid with
  | none => ⟨app, none⟩
  | some _ =>
      let popped := { app with runners := app.runners.erase sid }
      match (trouble sid).stop with
      | some e => ⟨popped, some e⟩
      | none =>
          ⟨{ popped with strategyAccounts := app.strategyAccounts.erase sid },
            none⟩

def replace (entry : StrategyEntry π) (app : StingerApp ρ π ν) :
    Attempt (StingerApp ρ π ν) :=
  let removed := remove trouble entry.id app
  match removed.error with
  | some e => ⟨removed.state, some e⟩
  | none => add lib trouble entry removed.state

/-- The parameters are swapped before the strategy's hook hears of it. -/
def updateParams (sid : StrategyId) (raw : π) (app : StingerApp ρ π ν) :
    Attempt (StingerApp ρ π ν) :=
  match app.runners.get? sid with
  | none => ⟨app, none⟩
  | some runner =>
      match lib.validate runner.classPath raw with
      | .error e => ⟨app, some e⟩
      | .ok params =>
          ⟨{ app with
              runners := app.runners.set sid { runner with params := params } },
            (trouble sid).paramsHook⟩

/-- A known runner is paused or resumed. An unknown one is added when it is to be
enabled, with its entry in the snapshot that is still the adopted one. -/
def setEnabled (sid : StrategyId) (enabled : Bool) (app : StingerApp ρ π ν) :
    Attempt (StingerApp ρ π ν) :=
  match app.runners.get? sid with
  | some runner =>
      ⟨{ app with
          runners := app.runners.set sid { runner with paused := !enabled } },
        none⟩
  | none =>
      if enabled then
        match app.fullCfg.entryOf? sid with
        | none => ⟨app, none⟩
        | some entry => add lib trouble entry app
      else ⟨app, none⟩

def changeAccount (sid : StrategyId) (accountId : AccountId)
    (app : StingerApp ρ π ν) : Attempt (StingerApp ρ π ν) :=
  if app.pool.contains accountId then
    match app.runners.get? sid with
    | none => ⟨app, none⟩
    | some _ => ⟨app.route sid accountId, (trouble sid).feeds⟩
  else
    ⟨app,
      some
        ("unknown account '" ++ accountId ++ "' for strategy '" ++ sid ++
          "' — add the broker to app.yaml first or revert the change")⟩

/-- `_build_reload_actions`. -/
def reloadActions : ReloadActions (StingerApp ρ π ν) ρ π where
  addStrategy := add lib trouble
  removeStrategy := remove trouble
  replaceStrategy := replace lib trouble
  updateParams := updateParams lib trouble
  setEnabled := setEnabled lib trouble
  changeAccount := changeAccount trouble
  updateLogLevel := fun level app => ⟨{ app with logLevel := level }, none⟩
  updateRisk := fun cfg app => ⟨{ app with risk := cfg }, none⟩

end Callbacks

/-! ### The handler -/

section Handler

variable [DecidableEq ρ] [DecidableEq π] (lib : StrategyLibrary π ν)

/-- What the reloader makes of a new snapshot. -/
def applyChanges (app : StingerApp ρ π ν) (new : FullConfig ρ π)
    (order : List StrategyId) (trouble : StrategyId → Trouble) :
    Progress (StingerApp ρ π ν) :=
  diffAndApply (reloadActions lib trouble) order app.fullCfg new app

/-- `_on_config_change` after the files have been loaded: a reload without an error
and with something in it is adopted. -/
def onConfigChange (app : StingerApp ρ π ν) (new : FullConfig ρ π)
    (order : List StrategyId) (trouble : StrategyId → Trouble) :
    StingerApp ρ π ν :=
  let p := applyChanges lib app new order trouble
  if p.result.ok &&
      (!p.result.applied.isEmpty || !p.result.needsRestart.isEmpty) then
    { p.state with fullCfg := new }
  else p.state

end Handler

end StingerApp

/-! ### Runs -/

/-- The watcher fires: the files cannot be loaded, or they hold a new snapshot.
`order` is the order in which the sets of ids are iterated. -/
inductive ReloadLabel (ρ π : Type) where
  | loadFails
  | reload (new : FullConfig ρ π) (order : List StrategyId)
      (trouble : StrategyId → Trouble)

namespace StingerApp

variable {ρ π ν : Type} [DecidableEq ρ] [DecidableEq π]

/-- An iteration meets every id of either snapshot once. -/
def Enumerates (app : StingerApp ρ π ν) (new : FullConfig ρ π)
    (order : List StrategyId) : Prop :=
  order.Nodup ∧
    (∀ entry ∈ app.fullCfg.strategies.strategies, entry.id ∈ order) ∧
    ∀ entry ∈ new.strategies.strategies, entry.id ∈ order

instance (app : StingerApp ρ π ν) (new : FullConfig ρ π)
    (order : List StrategyId) : Decidable (app.Enumerates new order) := by
  unfold Enumerates
  infer_instance

def step? (lib : StrategyLibrary π ν) (app : StingerApp ρ π ν) :
    ReloadLabel ρ π → Option (StingerApp ρ π ν)
  | .loadFails => some app
  | .reload new order trouble =>
      if app.Enumerates new order then
        some (app.onConfigChange lib new order trouble)
      else none

def Step (lib : StrategyLibrary π ν) :
    StingerApp ρ π ν → ReloadLabel ρ π → StingerApp ρ π ν → Prop :=
  stepOf? (step? lib)

end StingerApp

end StingerFx
