/-
Module: StingerFx.Proofs.AccountRouting
Layer: Proofs
Purpose: When fills and requests reach the account they are about. The routing map
  is read again at each step, so whatever a strategy has under way has to sit where
  the strategy is routed. That holds along every run in which a strategy is
  re-routed only while it has nothing under way at another account.
Trusted boundary: none (fully proved)
Main exports: AccountDesk.underWay, AccountDesk.ReroutesIdle,
  AccountDesk.Attributed, AccountDesk.Aligned, AccountDesk.orders_attributed,
  AccountDesk.flat_strategy_reroutes, AccountDesk.rerouted_order_misattributed
-/
import StingerFx.Lib.Runs
import StingerFx.Runtime.AccountDesk

namespace StingerFx

open Lib

variable {β ε : Type}

/-- The account an order of a strategy is at, while its outcome is not reported. -/
def SubmissionTask.underWay : SubmissionTask ε → List (StrategyId × AccountId)
  | .idle => []
  | .accepted req account | .awaiting req account _ _ =>
      [(req.strategyId, account)]

def RecoveredOrder.underWay (item : RecoveredOrder) : StrategyId × AccountId :=
  (item.order.request.strategyId, item.account)

def RecoveryTask.underWay : RecoveryTask ε → List (StrategyId × AccountId)
  | .notStarted | .raised => []
  | .awaiting _ req account _ _ done =>
      (req.strategyId, account) :: done.map RecoveredOrder.underWay
  | .publishing items => items.map RecoveredOrder.underWay

def LiveTicket.underWay (entry : LiveTicket) : StrategyId × AccountId :=
  (entry.strategyId, entry.account)

namespace AccountDesk

/-- Everything the strategies have under way, with the account it is at. -/
def underWay (s : AccountDesk β ε) : List (StrategyId × AccountId) :=
  s.live.map LiveTicket.underWay ++ (s.task.underWay ++ s.recovery.underWay)

/-- A strategy is re-routed only while it has nothing under way elsewhere. -/
def ReroutesIdle (s : AccountDesk β ε) : DeskLabel β → Prop
  | .changeAccount strategyId account =>
      s.pool.has account = true → strategyId ∈ s.runners →
        ∀ entry ∈ s.underWay, entry.1 = strategyId → entry.2 = account
  | _ => True

instance (s : AccountDesk β ε) (label : DeskLabel β) :
    Decidable (s.ReroutesIdle label) := by
  cases label <;> unfold ReroutesIdle <;> infer_instance

/-- Every published fill names the account that executed the order, and every
request went to the account at which its strategy had the ticket. -/
structure Attributed (s : AccountDesk β ε) : Prop where
  fills : ∀ fill ∈ s.fills, fill.accountId = fill.executedOn
  requests : ∀ done ∈ s.handled, ∀ account ∈ done.holders,
    account = done.executedOn

/-! ### The invariant -/

/-- Both copies of the map agree, and what is under way is at the account its
strategy is routed to. -/
structure Aligned (s : AccountDesk β ε) : Prop where
  maps : s.lookupAccounts = s.strategyAccounts
  routed : ∀ entry ∈ s.underWay, entry.2 = s.accountFor entry.1
  attributed : s.Attributed

section Steps

variable {ports : DeskPorts β ε} {s s' : AccountDesk β ε}

theorem mem_underWay {entry : StrategyId × AccountId} :
    entry ∈ s.underWay ↔
      entry ∈ s.live.map LiveTicket.underWay ∨ entry ∈ s.task.underWay ∨
        entry ∈ s.recovery.underWay := by
  unfold underWay
  rw [List.mem_append, List.mem_append]

theorem live_underWay {entry : LiveTicket} (live : entry ∈ s.live) :
    entry.underWay ∈ s.underWay :=
  mem_underWay.mpr (.inl (List.mem_map.mpr ⟨entry, live, rfl⟩))

/-- What a step leaves of the routing. -/
structure SameRoutes (s s' : AccountDesk β ε) : Prop where
  lookup : s'.lookupAccounts = s.lookupAccounts
  strategies : s'.strategyAccounts = s.strategyAccounts
  accountFor : ∀ strategyId, s'.accountFor strategyId = s.accountFor strategyId

variable (ports) in
theorem withBroker_routes {account : AccountId}
    (known : s.pool.has account = true) (b : β) :
    SameRoutes s (s.withBroker ports account b) where
  lookup := rfl
  strategies := rfl
  accountFor := s.pool.accountFor_put known b s.strategyAccounts

/-- A broker call only drops tickets. -/
theorem withBroker_live (account : AccountId) (b : β) :
    (s.withBroker ports account b).live ⊆ s.live :=
  fun _ member => (List.mem_filter.mp member).1

variable (ports) in
theorem place_routes {account : AccountId} (known : s.pool.has account = true)
    (b : β) (req : OrderRequest) :
    SameRoutes s (s.place ports account b req).1 where
  lookup := rfl
  strategies := rfl
  accountFor :=
    (withBroker_routes ports known
      (ports.port.placeOrder b req).broker).accountFor

/-- A placement leaves at most one ticket more, at the account it went to. -/
theorem place_live {account : AccountId} {b : β} {req : OrderRequest}
    {entry : LiveTicket}
    (member : entry ∈ (s.place ports account b req).1.live) :
    entry ∈ s.live ∨ entry.underWay = (req.strategyId, account) := by
  rcases List.mem_append.mp member with kept | opened
  · exact .inl (withBroker_live account _ kept)
  · right
    unfold openedBy at opened
    split at opened
    · cases opened
    · split at opened
      · cases opened
      · split at opened
        · rw [List.mem_singleton.mp opened]
          rfl
        · cases opened

/-- The fills of a report name the account that was looked up. -/
theorem mem_reportsOf {accountId executedOn : AccountId} {req : OrderRequest}
    {result : OrderResult} {fill : FillReport}
    (member : fill ∈ reportsOf accountId executedOn req result) :
    fill.accountId = accountId ∧ fill.executedOn = executedOn := by
  unfold reportsOf submissionEvents at member
  split at member
  · split at member
    · rw [List.mem_singleton.mp member]
      exact ⟨rfl, rfl⟩
    · rw [List.mem_singleton.mp member]
      exact ⟨rfl, rfl⟩
    · cases member
  · cases member

/-- A report of an order that is where its strategy is routed. -/
theorem report_attributed {executedOn : AccountId} {req : OrderRequest}
    (attributed : s.Attributed) (routed : executedOn = s.accountFor req.strategyId)
    (result : OrderResult) : (s.report executedOn req result).Attributed where
  fills := by
    intro fill member
    rcases List.mem_append.mp member with old | new
    · exact attributed.fills fill old
    · rcases mem_reportsOf new with ⟨accountId, executed⟩
      rw [accountId, executed, routed]
  requests := attributed.requests

/-- A step that keeps the routes, and after which everything under way was under
way before or is where its strategy is routed. -/
theorem Aligned.of_routes (aligned : s.Aligned) (routes : SameRoutes s s')
    (underWay : ∀ entry ∈ s'.underWay,
      entry ∈ s.underWay ∨ entry.2 = s.accountFor entry.1)
    (attributed : s'.Attributed) : s'.Aligned where
  maps := by
    rw [routes.lookup, routes.strategies]
    exact aligned.maps
  routed := by
    intro entry member
    rw [routes.accountFor]
    rcases underWay entry member with before | routed
    · exact aligned.routed entry before
    · exact routed
  attributed := attributed

/-- The recovery calls the broker its next row's strategy is routed to. -/
theorem Aligned.replayFrom (aligned : s.Aligned) {done : List RecoveredOrder}
    (routed : ∀ item ∈ done, item.underWay.2 = s.accountFor item.underWay.1)
    {todo : List (RowId × PendingOrderRequestRow)}
    (taken : s.replayFrom ports done todo = some s') : s'.Aligned := by
  unfold AccountDesk.replayFrom at taken
  split at taken
  · cases taken
    refine aligned.of_routes ⟨rfl, rfl, fun _ => rfl⟩ ?_
      ⟨aligned.attributed.fills, aligned.attributed.requests⟩
    intro entry member
    rcases mem_underWay.mp member with live | task | recovery
    · exact .inl (mem_underWay.mpr (.inl live))
    · exact .inl (mem_underWay.mpr (.inr (.inl task)))
    · rcases List.mem_map.mp recovery with ⟨item, listed, rfl⟩
      exact .inr (routed item listed)
  · rename_i id row todo
    split at taken
    · cases taken
      refine aligned.of_routes ⟨rfl, rfl, fun _ => rfl⟩ ?_
        ⟨aligned.attributed.fills, aligned.attributed.requests⟩
      intro entry member
      rcases mem_underWay.mp member with live | task | recovery
      · exact .inl (mem_underWay.mpr (.inl live))
      · exact .inl (mem_underWay.mpr (.inr (.inl task)))
      · cases recovery
    · rename_i req valid
      have looked : s.pool.accountFor s.lookupAccounts req.strategyId =
          s.accountFor req.strategyId := by
        rw [aligned.maps]
        rfl
      dsimp only at taken
      rw [looked] at taken
      split at taken
      · cases taken
      · rename_i b found
        cases taken
        have routes := place_routes ports
          (BrokerPool.has_of_get? found) b req
        refine aligned.of_routes ⟨rfl, rfl, routes.accountFor⟩ ?_
          ⟨aligned.attributed.fills, aligned.attributed.requests⟩
        intro entry member
        rcases mem_underWay.mp member with live | task | recovery
        · rcases List.mem_map.mp live with ⟨ticket, listed, rfl⟩
          rcases place_live listed with kept | opened
          · exact .inl (live_underWay kept)
          · right
            rw [opened]
        · exact .inl (mem_underWay.mpr (.inr (.inl task)))
        · rcases List.mem_cons.mp recovery with rfl | earlier
          · exact .inr rfl
          · rcases List.mem_map.mp earlier with ⟨item, listed, rfl⟩
            exact .inr (routed item listed)

variable (ports) in
/-- Writing a row changes nothing that is routed. -/
theorem Aligned.settleRow (aligned : s.Aligned) (now : Time) (context : String)
    (row : RowId) (answer : PlaceAnswer ε) :
    (s.settleRow ports now context row answer).Aligned :=
  aligned.of_routes ⟨rfl, rfl, fun _ => rfl⟩ (fun _ member => .inl member)
    ⟨aligned.attributed.fills, aligned.attributed.requests⟩

/-- The router decides on a signal. -/
theorem Aligned.handleSignal (aligned : s.Aligned) {now : Time}
    {id : ClientOrderId} {signal : Signal}
    (taken : Step ports s (.handleSignal now id signal) s') : s'.Aligned := by
  unfold Step stepOf? at taken
  simp only [step?] at taken
  split at taken
  · rename_i b idle found
    cases taken
    have routes := withBroker_routes ports
      (BrokerPool.has_of_get? found)
      (preTrade ports.port s.router s.risk now id signal b).broker
    refine aligned.of_routes ⟨rfl, rfl, routes.accountFor⟩ ?_
      ⟨aligned.attributed.fills, aligned.attributed.requests⟩
    intro entry member
    rcases mem_underWay.mp member with live | task | recovery
    · rcases List.mem_map.mp live with ⟨ticket, listed, rfl⟩
      exact .inl (live_underWay (withBroker_live _ _ listed))
    · right
      dsimp only at task
      split at task
      · rename_i req gate
        rcases buildRequest_fields (preTrade_built gate).2 with
          ⟨strategyId, -⟩
        rw [List.mem_singleton.mp task, strategyId]
      · cases task
      · cases task
    · exact .inl (mem_underWay.mpr (.inr (.inr recovery)))
  · cases taken

/-- The request reaches the broker that was picked for its signal. -/
theorem Aligned.submit (aligned : s.Aligned) {now : Time}
    (taken : Step ports s (.submit now) s') : s'.Aligned := by
  unfold Step stepOf? at taken
  simp only [step?] at taken
  split at taken
  · rename_i req account task
    have routed : account = s.accountFor req.strategyId :=
      aligned.routed (req.strategyId, account) (mem_underWay.mpr (.inr (.inl (by
        rw [task]
        exact List.mem_singleton_self _))))
    split at taken
    · cases taken
    · rename_i b found
      -- both ways to the broker end in the same placement
      have placed : ∀ (queue : Option OrderTable) (row : Option RowId),
          Aligned { (s.place ports account b req).1 with
            queue := queue
            task := .awaiting req account row
              (s.place ports account b req).2 } := by
        intro queue row
        have routes := place_routes ports
          (BrokerPool.has_of_get? found) b req
        refine aligned.of_routes ⟨rfl, rfl, routes.accountFor⟩ ?_
          ⟨aligned.attributed.fills, aligned.attributed.requests⟩
        intro entry member
        rcases mem_underWay.mp member with live | waiting | recovery
        · rcases List.mem_map.mp live with ⟨ticket, listed, rfl⟩
          rcases place_live listed with kept | opened
          · exact .inl (live_underWay kept)
          · right
            rw [opened]
            exact routed
        · right
          rw [List.mem_singleton.mp waiting]
          exact routed
        · exact .inl (mem_underWay.mpr (.inr (.inr recovery)))
      split at taken
      · cases taken
        exact placed _ none
      · split at taken
        · cases taken
          refine aligned.of_routes ⟨rfl, rfl, fun _ => rfl⟩ ?_
            ⟨aligned.attributed.fills, aligned.attributed.requests⟩
          intro entry member
          rcases mem_underWay.mp member with live | waiting | recovery
          · exact .inl (mem_underWay.mpr (.inl live))
          · right
            rw [List.mem_singleton.mp waiting]
            exact routed
          · exact .inl (mem_underWay.mpr (.inr (.inr recovery)))
        · cases taken
          exact placed _ _
  · cases taken

/-- The answer is reported for the account the order went to. -/
theorem Aligned.answered (aligned : s.Aligned) {now : Time}
    (taken : Step ports s (.answered now) s') : s'.Aligned := by
  unfold Step stepOf? at taken
  simp only [step?] at taken
  split at taken
  · rename_i req account row answer task
    have routed : account = s.accountFor req.strategyId :=
      aligned.routed (req.strategyId, account) (mem_underWay.mpr (.inr (.inl (by
        rw [task]
        exact List.mem_singleton_self _))))
    have idle : Aligned { s with task := .idle } := by
      refine aligned.of_routes ⟨rfl, rfl, fun _ => rfl⟩ ?_
        ⟨aligned.attributed.fills, aligned.attributed.requests⟩
      intro entry member
      rcases mem_underWay.mp member with live | none | recovery
      · exact .inl (mem_underWay.mpr (.inl live))
      · cases none
      · exact .inl (mem_underWay.mpr (.inr (.inr recovery)))
    have reported : ∀ {settled : AccountDesk β ε}, settled.Aligned →
        settled.accountFor req.strategyId = s.accountFor req.strategyId →
        ∀ result, (settled.report account req result).Aligned := by
      intro settled kept same result
      refine kept.of_routes ⟨rfl, rfl, fun _ => rfl⟩
        (fun _ member => .inl member) ?_
      exact report_attributed kept.attributed (routed.trans same.symm) result
    cases row with
    | none =>
        dsimp only at taken
        split at taken
        · cases taken
          exact idle
        · cases taken
          exact reported idle rfl _
    | some row =>
        dsimp only at taken
        have settled := idle.settleRow ports now "" row answer
        split at taken
        · cases taken
          exact settled
        · cases taken
          exact reported settled rfl _
  · cases taken

/-- A broker answers the recovery; its result waits to be published. -/
theorem Aligned.replayAnswered (aligned : s.Aligned) {now : Time}
    (taken : Step ports s (.replayAnswered now) s') : s'.Aligned := by
  unfold Step stepOf? at taken
  simp only [step?] at taken
  split at taken
  · rename_i id req account answer todo done recovery
    have member : ∀ entry ∈ (req.strategyId, account) ::
        done.map RecoveredOrder.underWay, entry.2 = s.accountFor entry.1 := by
      intro entry listed
      apply aligned.routed entry (mem_underWay.mpr (.inr (.inr _)))
      rw [recovery]
      exact listed
    have before : ∀ item ∈ done,
        item.underWay.2 = s.accountFor item.underWay.1 := fun item listed =>
      member _ (List.mem_cons_of_mem _ (List.mem_map.mpr ⟨item, listed, rfl⟩))
    have settled :=
      aligned.settleRow ports now "replay " id answer
    split at taken
    · exact settled.replayFrom before taken
    · rename_i result
      apply settled.replayFrom _ taken
      intro item listed
      rcases List.mem_append.mp listed with old | new
      · exact before item old
      · rw [List.mem_singleton.mp new]
        exact member _ List.mem_cons_self
  · cases taken

/-- A recovered order is reported for the account it went to. -/
theorem Aligned.publishReplayed (aligned : s.Aligned)
    (taken : Step ports s .publishReplayed s') : s'.Aligned := by
  unfold Step stepOf? at taken
  simp only [step?] at taken
  split at taken
  · rename_i item items recovery
    cases taken
    have member : ∀ entry ∈ (item :: items).map RecoveredOrder.underWay,
        entry ∈ s.underWay := by
      intro entry listed
      apply mem_underWay.mpr (.inr (.inr _))
      rw [recovery]
      exact listed
    have routed : item.account = s.accountFor item.order.request.strategyId :=
      aligned.routed _ (member _ (List.mem_map.mpr
        ⟨item, List.mem_cons_self, rfl⟩))
    refine aligned.of_routes ⟨rfl, rfl, fun _ => rfl⟩ ?_ ?_
    · intro entry listed
      rcases mem_underWay.mp listed with live | task | later
      · exact .inl (mem_underWay.mpr (.inl live))
      · exact .inl (mem_underWay.mpr (.inr (.inl task)))
      · exact .inl (member entry (List.mem_cons_of_mem _ later))
    · exact report_attributed (s := { s with recovery := .publishing items })
        ⟨aligned.attributed.fills, aligned.attributed.requests⟩ routed _
  · cases taken

/-- A request goes to the account at which its strategy has everything. -/
theorem Aligned.handleRequest (aligned : s.Aligned) {request : RouterRequest}
    (taken : Step ports s (.handleRequest request) s') : s'.Aligned := by
  unfold Step stepOf? at taken
  simp only [step?] at taken
  split at taken
  · cases taken
  · rename_i b found
    cases taken
    have routes := withBroker_routes ports
      (BrokerPool.has_of_get? found)
      (StingerFx.handleRequest ports.manage s.router request b).broker
    refine aligned.of_routes ⟨rfl, rfl, routes.accountFor⟩ ?_
      ⟨aligned.attributed.fills, ?_⟩
    · intro entry member
      rcases mem_underWay.mp member with live | task | recovery
      · rcases List.mem_map.mp live with ⟨ticket, listed, rfl⟩
        exact .inl (live_underWay (withBroker_live _ _ listed))
      · exact .inl (mem_underWay.mpr (.inr (.inl task)))
      · exact .inl (mem_underWay.mpr (.inr (.inr recovery)))
    · intro done member
      rcases List.mem_append.mp member with old | new
      · exact aligned.attributed.requests done old
      · rw [List.mem_singleton.mp new]
        intro account held
        rcases List.mem_map.mp held with ⟨entry, listed, rfl⟩
        rcases List.mem_filter.mp listed with ⟨live, same⟩
        have routed : entry.account = s.accountFor entry.strategyId :=
          aligned.routed entry.underWay (live_underWay live)
        rw [routed, (of_decide_eq_true same).1]

/-- Re-routing a strategy that has nothing under way elsewhere. -/
theorem Aligned.changeAccount (aligned : s.Aligned) {strategyId : StrategyId}
    {account : AccountId}
    (idle : s.ReroutesIdle (.changeAccount strategyId account))
    (taken : Step ports s (.changeAccount strategyId account) s') :
    s'.Aligned := by
  unfold Step stepOf? at taken
  simp only [step?] at taken
  split at taken
  · rename_i given
    cases taken
    refine ⟨?_, ?_, ⟨aligned.attributed.fills, aligned.attributed.requests⟩⟩
    · dsimp only
      rw [aligned.maps]
    · intro entry member
      have before : entry ∈ s.underWay := member
      have moved := s.pool.accountFor_set given.1 s.strategyAccounts strategyId
        entry.1
      have same : AccountDesk.accountFor
          { s with
            lookupAccounts := s.lookupAccounts.set strategyId account
            strategyAccounts := s.strategyAccounts.set strategyId account }
          entry.1 = if entry.1 = strategyId then account
            else s.accountFor entry.1 := moved
      rw [same]
      split
      · rename_i own
        exact idle given.1 given.2 entry before own
      · exact aligned.routed entry before
  · cases taken
    exact aligned

/-- Every step keeps the invariant. -/
theorem Aligned.step (aligned : s.Aligned) {label : DeskLabel β}
    (idle : s.ReroutesIdle label) (taken : Step ports s label s') :
    s'.Aligned := by
  cases label with
  | handleSignal now id signal => exact aligned.handleSignal taken
  | submit now => exact aligned.submit taken
  | answered now => exact aligned.answered taken
  | startReplay =>
      unfold Step stepOf? at taken
      simp only [step?] at taken
      split at taken
      · exact aligned.replayFrom (fun _ member => by cases member) taken
      · cases taken
  | replayAnswered now => exact aligned.replayAnswered taken
  | publishReplayed => exact aligned.publishReplayed taken
  | handleRequest request => exact aligned.handleRequest taken
  | brokerMoves account b =>
      unfold Step stepOf? at taken
      simp only [step?] at taken
      split at taken
      · rename_i known
        cases taken
        have routes := withBroker_routes ports known b
        refine aligned.of_routes ⟨rfl, rfl, routes.accountFor⟩ ?_
          ⟨aligned.attributed.fills, aligned.attributed.requests⟩
        intro entry member
        rcases mem_underWay.mp member with live | task | recovery
        · rcases List.mem_map.mp live with ⟨ticket, listed, rfl⟩
          exact .inl (live_underWay (withBroker_live _ _ listed))
        · exact .inl (mem_underWay.mpr (.inr (.inl task)))
        · exact .inl (mem_underWay.mpr (.inr (.inr recovery)))
      · cases taken
  | changeAccount strategyId account => exact aligned.changeAccount idle taken

theorem Aligned.boot (pool : BrokerPool β) (runners : List StrategyId)
    (accounts : AccountMap) (router : RouterState) (risk : Option RiskMonitor)
    (queue : Option OrderTable) :
    (AccountDesk.boot (ε := ε) pool runners accounts router risk queue).Aligned where
  maps := rfl
  routed := by
    rintro entry ⟨⟩
  attributed := ⟨by rintro fill ⟨⟩, by rintro done ⟨⟩⟩

end Steps

/-! ### Runs -/

/-- In every run that re-routes a strategy only while it has nothing under way
elsewhere, fills name the account that executed the order, and requests reach the
account that holds the ticket. -/
theorem orders_attributed {ports : DeskPorts β ε} {pool : BrokerPool β}
    {runners : List StrategyId} {accounts : AccountMap} {router : RouterState}
    {risk : Option RiskMonitor} {queue : Option OrderTable}
    {labels : List (DeskLabel β)} {s : AccountDesk β ε}
    (run : Run (Guarded ReroutesIdle (Step ports))
      (boot pool runners accounts router risk queue) labels s) :
    s.Attributed :=
  (run.invariant (Aligned.boot pool runners accounts router risk queue)
    fun taken aligned => aligned.step taken.1 taken.2).attributed

/-! ### A strategy that changes accounts -/

/-- Simulated brokers behind the desk. -/
def simPorts : DeskPorts (SimBroker Unit) BrokerError where
  port := simPort .plain
  manage := simManagePort .plain
  holds := fun b ticket =>
    b.positions.contains ticket || b.pending.contains ticket
  describe := fun _ => "BrokerError"
  number := fun _ => ""

def quotedBroker : SimBroker Unit :=
  (SimBroker.create 1000 () 0).setMarket "EURUSD" 1

/-- Two accounts; the strategy trades on the first one. -/
def twoAccounts : AccountDesk (SimBroker Unit) BrokerError :=
  boot ((BrokerPool.create "main" quotedBroker).put "spare" quotedBroker)
    ["trend"] (Dict.empty.set "trend" "main")
    ⟨Dict.empty.set "trend" 7, .empty⟩ none (some .empty)

def trendBuysOne (time : Time) : Signal where
  strategyId := "trend"
  time := time
  symbol := "EURUSD"
  side := .buy
  suggestedVolume := some 1
  suggestedSl := none
  suggestedTp := none
  orderType := .market
  suggestedPrice := none
  entryRefPrice := none
  comment := ""

def trendCloses : DeskLabel (SimBroker Unit) :=
  .handleRequest (.close ⟨"trend", 1, ""⟩)

/-- The position is closed before the strategy moves to the other account. -/
def closesThenMoves : List (DeskLabel (SimBroker Unit)) :=
  [.handleSignal 1 "a" (trendBuysOne 1), .submit 1, .answered 1, trendCloses,
    .changeAccount "trend" "spare", .handleSignal 2 "b" (trendBuysOne 2),
    .submit 2, .answered 2]

/-- The strategy moves while its order awaits the broker. -/
def movesInFlight : List (DeskLabel (SimBroker Unit)) :=
  [.handleSignal 1 "a" (trendBuysOne 1), .submit 1,
    .changeAccount "trend" "spare", .answered 1, trendCloses]

/-- Accounts of the fills and of the requests of a state. -/
def attributions (s : AccountDesk β ε) :
    List (AccountId × AccountId) × List (AccountId × List AccountId) :=
  (s.fills.map fun fill => (fill.accountId, fill.executedOn),
    s.handled.map fun done => (done.executedOn, done.holders))

theorem flat_strategy_reroutes :
    ∃ s : AccountDesk (SimBroker Unit) BrokerError,
      attributions s =
        ([("main", "main"), ("spare", "spare")], [("main", ["main"])]) ∧
      s.Attributed := by
  have reached :
      (replay? ReroutesIdle (step? simPorts) twoAccounts closesThenMoves).map
        attributions =
          some ([("main", "main"), ("spare", "spare")],
            [("main", ["main"])]) := by
    decide +kernel
  rcases Option.map_eq_some_iff.mp reached with ⟨s, replayed, attributed⟩
  exact ⟨s, attributed, orders_attributed (run_of_replay? replayed)⟩

/-- Re-routed in flight, the fill names the account that did not execute it, and
the close goes to a broker that does not have the ticket. -/
theorem rerouted_order_misattributed :
    ¬ ∀ (ports : DeskPorts (SimBroker Unit) BrokerError)
        (pool : BrokerPool (SimBroker Unit)) (runners : List StrategyId)
        (accounts : AccountMap) (router : RouterState)
        (risk : Option RiskMonitor) (queue : Option OrderTable)
        (labels : List (DeskLabel (SimBroker Unit)))
        (s : AccountDesk (SimBroker Unit) BrokerError),
        Run (Step ports) (boot pool runners accounts router risk queue) labels s →
        s.Attributed := by
  intro claim
  have reached :
      (replay? (fun _ _ => True) (step? simPorts) twoAccounts
        movesInFlight).map attributions =
          some ([("spare", "main")], [("spare", ["main"])]) := by
    decide +kernel
  rcases Option.map_eq_some_iff.mp reached with ⟨s, replayed, attributed⟩
  have kept := claim simPorts _ _ _ _ _ _ movesInFlight s
    (run_of_replay? replayed).unguard
  rcases Prod.mk.inj attributed with ⟨fills, -⟩
  obtain ⟨fill, rest, listed, names, -⟩ := List.map_eq_cons_iff.mp fills
  have same := kept.fills fill (by
    rw [listed]
    exact List.mem_cons_self)
  rcases Prod.mk.inj names with ⟨accountId, executedOn⟩
  rw [accountId, executedOn] at same
  exact absurd same (by decide)

end AccountDesk

end StingerFx
