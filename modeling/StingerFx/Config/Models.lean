/-
Module: StingerFx.Config.Models
Layer: Config
Purpose: The configuration files as the reloader compares them: the brokers and the
  process-wide settings of the application, and the strategies by their ids. The
  risk section and a strategy's parameters are compared as a whole, so their types
  are parameters. What the schemas validate is a field of the structure here.
Trusted boundary: human-reviewed model of the source's configuration schemas
Main exports: Config.AppConfig, Config.StrategyEntry, Config.StrategiesConfig,
  Config.StrategiesConfig.byId, Config.FullConfig
-/
import StingerFx.Domain
import StingerFx.Lib.Dict

namespace StingerFx

open Lib

namespace Config

inductive RunMode where
  | normal
  | tui
  | web
deriving Repr, DecidableEq

def RunMode.text : RunMode → String
  | .normal => "normal"
  | .tui => "tui"
  | .web => "web"

inductive LogLevel where
  | debug
  | info
  | warning
  | error
deriving Repr, DecidableEq

def LogLevel.text : LogLevel → String
  | .debug => "DEBUG"
  | .info => "INFO"
  | .warning => "WARNING"
  | .error => "ERROR"

inductive BrokerType where
  | mt5
  | mt4
deriving Repr, DecidableEq

def BrokerType.text : BrokerType → String
  | .mt5 => "mt5"
  | .mt4 => "mt4"

structure MT5Config where
  terminalPath : String
  login : Int
  password : String
  server : String
  timeoutMs : Nat
  timeoutMs_pos : 0 < timeoutMs
deriving DecidableEq

structure MT4Config where
  bridgeHost : String
  bridgePort : Nat
  bridgePort_pos : 0 < bridgePort
  bridgePort_lt : bridgePort < 65536
deriving DecidableEq

structure BrokerConfig where
  id : AccountId
  type : BrokerType
  mt5 : Option MT5Config
  mt4 : Option MT4Config
deriving DecidableEq

structure WebConfig where
  host : String
  port : Nat
  port_pos : 0 < port
  port_lt : port < 65536
deriving DecidableEq

/-- The settings of `app.yaml`, with the brokers in the shape of `broker_list`: a
first broker and the others. -/
structure AppConfig (ρ : Type) where
  mode : RunMode
  primary : BrokerConfig
  others : List BrokerConfig
  dataDir : String
  logLevel : LogLevel
  timezone : String
  web : WebConfig
  risk : ρ
  allowUnsafeInprocessMt5MultiAccount : Bool
  ids_nodup : ((primary :: others).map (·.id)).Nodup
  mt5_alone :
    ((primary :: others).filter fun b => decide (b.type = .mt5)).length ≤ 1 ∨
      allowUnsafeInprocessMt5MultiAccount = true

/-- `broker_list`. -/
def AppConfig.brokerList {ρ : Type} (app : AppConfig ρ) : List BrokerConfig :=
  app.primary :: app.others

/-- A strategy of `strategies.yaml`. -/
structure StrategyEntry (π : Type) where
  id : StrategyId
  classPath : String
  enabled : Bool
  account : AccountId
  params : π
deriving DecidableEq

structure StrategiesConfig (π : Type) where
  strategies : List (StrategyEntry π)
  ids_nodup : (strategies.map (·.id)).Nodup

/-- `{s.id: s for s in strategies}`. -/
def StrategiesConfig.byId {π : Type} (cfg : StrategiesConfig π) :
    Dict StrategyId (StrategyEntry π) where
  items := cfg.strategies.map fun entry => (entry.id, entry)
  nodup := by
    rw [List.map_map]
    exact cfg.ids_nodup

theorem StrategiesConfig.mem_of_byId {π : Type} {cfg : StrategiesConfig π}
    {sid : StrategyId} {entry : StrategyEntry π}
    (listed : cfg.byId.get? sid = some entry) :
    entry ∈ cfg.strategies ∧ entry.id = sid := by
  rw [Dict.get?_eq_some_iff] at listed
  rcases List.mem_map.mp listed with ⟨found, member, same⟩
  cases same
  exact ⟨member, rfl⟩

/-- A snapshot of the files; the backtest section is read where it is used. -/
structure FullConfig (ρ π : Type) where
  app : AppConfig ρ
  strategies : StrategiesConfig π

/-- The strategy of an id. -/
def FullConfig.entryOf? {ρ π : Type} (cfg : FullConfig ρ π) (sid : StrategyId) :
    Option (StrategyEntry π) :=
  cfg.strategies.byId.get? sid

theorem FullConfig.id_of_entryOf? {ρ π : Type} {cfg : FullConfig ρ π}
    {sid : StrategyId} {entry : StrategyEntry π}
    (listed : cfg.entryOf? sid = some entry) : entry.id = sid :=
  (StrategiesConfig.mem_of_byId listed).2

end Config

end StingerFx
