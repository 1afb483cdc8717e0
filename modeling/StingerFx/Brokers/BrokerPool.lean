/-
Module: StingerFx.Brokers.BrokerPool
Layer: Brokers
Purpose: The brokers of a process, one for each account, and which of them a
  strategy trades against. A strategy without an account, or with one that no
  broker has, falls back to the broker that was added first.
Trusted boundary: human-reviewed model of the source's broker pool and of the
  router's choice of a broker
Main exports: BrokerPool, BrokerPool.put, BrokerPool.accountFor
-/
import StingerFx.Domain
import StingerFx.Lib.Dict

namespace StingerFx

open Lib

/-- Which account each strategy is routed to. -/
abbrev AccountMap := Dict StrategyId AccountId

/-- Brokers by account; the one added first is the primary one. Adding a broker
stamps it with its account. -/
structure BrokerPool (β : Type) where
  brokers : Dict AccountId β
  primaryId : AccountId
  primary_mem : brokers.contains primaryId = true

namespace BrokerPool

variable {β : Type}

def create (primaryId : AccountId) (primary : β) : BrokerPool β where
  brokers := Dict.empty.set primaryId primary
  primaryId := primaryId
  primary_mem := by
    rw [Dict.contains_set, decide_eq_true rfl, Bool.true_or]

def has (pool : BrokerPool β) (account : AccountId) : Bool :=
  pool.brokers.contains account

def get? (pool : BrokerPool β) (account : AccountId) : Option β :=
  pool.brokers.get? account

/-- The pool with a broker added, or with a broker in a later state. -/
def put (pool : BrokerPool β) (account : AccountId) (b : β) : BrokerPool β where
  brokers := pool.brokers.set account b
  primaryId := pool.primaryId
  primary_mem := by
    rw [Dict.contains_set, pool.primary_mem, Bool.or_true]

/-- The account of `_broker_for`. -/
def accountFor (pool : BrokerPool β) (accounts : AccountMap)
    (strategyId : StrategyId) : AccountId :=
  match accounts.get? strategyId with
  | some account => if pool.has account then account else pool.primaryId
  | none => pool.primaryId

theorem has_put (pool : BrokerPool β) {account : AccountId}
    (known : pool.has account = true) (b : β) (other : AccountId) :
    (pool.put account b).has other = pool.has other := by
  unfold has put at *
  rw [Dict.contains_set]
  by_cases same : other = account
  · rw [same, known, Bool.or_true]
  · rw [decide_eq_false same, Bool.false_or]

theorem has_of_get? {pool : BrokerPool β} {account : AccountId} {b : β}
    (found : pool.get? account = some b) : pool.has account = true := by
  unfold has Dict.contains
  unfold get? at found
  rw [found]
  rfl

/-- A broker call does not move a strategy to another account. -/
theorem accountFor_put (pool : BrokerPool β) {account : AccountId}
    (known : pool.has account = true) (b : β) (accounts : AccountMap)
    (strategyId : StrategyId) :
    (pool.put account b).accountFor accounts strategyId =
      pool.accountFor accounts strategyId := by
  unfold accountFor
  split
  · rw [has_put pool known]
    rfl
  · rfl

/-- Routing one strategy leaves the others where they are. -/
theorem accountFor_set (pool : BrokerPool β) {account : AccountId}
    (known : pool.has account = true) (accounts : AccountMap)
    (strategyId other : StrategyId) :
    pool.accountFor (accounts.set strategyId account) other =
      if other = strategyId then account
      else pool.accountFor accounts other := by
  unfold accountFor
  rw [Dict.get?_set]
  by_cases same : other = strategyId
  · rw [if_pos same, if_pos same]
    exact if_pos known
  · rw [if_neg same, if_neg same]

end BrokerPool

end StingerFx
