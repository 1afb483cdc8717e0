/-
Module: StingerFx.Runtime.AccountDesk
Layer: Runtime
Purpose: Router, outbox and hot re-routing over a pool of brokers. The map from
  strategies to accounts can change between any two steps; a submission, its
  report and a later request each read it on their own. A submission awaits its
  broker, a recovery awaits one broker call per row and reports its results one
  by one afterwards.
Trusted boundary: human-reviewed model of the source's router, outbox and reload
  callback; what a broker does on its own between two calls is arbitrary
Main exports: DeskPorts, LiveTicket, FillReport, HandledRequest, AccountDesk,
  DeskLabel, AccountDesk.step?, AccountDesk.Step, AccountDesk.boot
-/
import StingerFx.Brokers.BrokerPool
import StingerFx.Execution.RequestHandlers

namespace StingerFx

open Lib

variable {β ε : Type}

/-- What the desk knows about brokers: the calls of the router, the calls of its
request handlers, which tickets a broker has open or resting, and the texts of
its exceptions and numbers. -/
structure DeskPorts (β ε : Type) where
  port : BrokerPort β ε
  manage : ManagePort β ε
  holds : β → Ticket → Bool
  describe : ε → String
  number : ℚ → String

/-- A ticket that a strategy opened and its broker still has. -/
structure LiveTicket where
  strategyId : StrategyId
  ticket : Ticket
  account : AccountId
deriving Repr, DecidableEq

/-- A fill the router has published, and the account that executed the order. -/
structure FillReport where
  order : Order
  accountId : AccountId
  executedOn : AccountId
deriving Repr, DecidableEq

/-- A request the router has handled: the account whose broker it went to, and
the accounts at which the strategy had the ticket live. -/
structure HandledRequest where
  request : RouterRequest
  executedOn : AccountId
  holders : List AccountId
deriving Repr, DecidableEq

/-- Where `handle_signal` stands. The broker is picked once, at its start. -/
inductive SubmissionTask (ε : Type) where
  | idle
  /-- decided, the submission is to come -/
  | accepted (req : OrderRequest) (account : AccountId)
  /-- the broker was called, its answer is on the way -/
  | awaiting (req : OrderRequest) (account : AccountId) (row : Option RowId)
      (answer : PlaceAnswer ε)

/-- A recovered order and the account whose broker it went to. -/
structure RecoveredOrder where
  order : ReplayedOrder
  account : AccountId
deriving Repr, DecidableEq

/-- Where `replay_pending_orders` stands. -/
inductive RecoveryTask (ε : Type) where
  | notStarted
  | awaiting (id : RowId) (req : OrderRequest) (account : AccountId)
      (answer : PlaceAnswer ε) (todo : List (RowId × PendingOrderRequestRow))
      (done : List RecoveredOrder)
  | publishing (items : List RecoveredOrder)
  /-- a stored row did not validate -/
  | raised

/-- The process. The last three fields are history that no step reads for what
it does. -/
structure AccountDesk (β ε : Type) where
  pool : BrokerPool β
  runners : List StrategyId
  /-- the runtime's map, which the outbox looks brokers up in -/
  lookupAccounts : AccountMap
  router : RouterState
  /-- the router's copy of the map -/
  strategyAccounts : AccountMap
  risk : Option RiskMonitor
  queue : Option OrderTable
  task : SubmissionTask ε
  recovery : RecoveryTask ε
  live : List LiveTicket
  fills : List FillReport
  handled : List HandledRequest

inductive DeskLabel (β : Type) where
  | handleSignal (now : Time) (clientOrderId : ClientOrderId) (signal : Signal)
  /-- the request goes through the outbox to the broker -/
  | submit (now : Time)
  /-- the answer arrives, and its outcome is published -/
  | answered (now : Time)
  | startReplay
  | replayAnswered (now : Time)
  | publishReplayed
  | handleRequest (request : RouterRequest)
  /-- a broker's own doing: fills of resting orders, stops, manual closes -/
  | brokerMoves (account : AccountId) (b : β)
  | changeAccount (strategyId : StrategyId) (account : AccountId)

namespace AccountDesk

def boot (pool : BrokerPool β) (runners : List StrategyId)
    (accounts : AccountMap) (router : RouterState) (risk : Option RiskMonitor)
    (queue : Option OrderTable) : AccountDesk β ε where
  pool := pool
  runners := runners
  lookupAccounts := accounts
  router := router
  strategyAccounts := accounts
  risk := risk
  queue := queue
  task := .idle
  recovery := .notStarted
  live := []
  fills := []
  handled := []

/-- The account a strategy's next call goes to. -/
def accountFor (s : AccountDesk β ε) (strategyId : StrategyId) : AccountId :=
  s.pool.accountFor s.strategyAccounts strategyId

/-- A broker in its later state; tickets it no longer has are gone. -/
def withBroker (ports : DeskPorts β ε) (s : AccountDesk β ε)
    (account : AccountId) (b : β) : AccountDesk β ε :=
  { s with
    pool := s.pool.put account b
    live := s.live.filter fun entry =>
      decide (entry.account ≠ account) || ports.holds b entry.ticket }

/-- The ticket a placement has left at its broker. -/
def openedBy (ports : DeskPorts β ε) (req : OrderRequest) (account : AccountId)
    (b : β) : PlaceAnswer ε → List LiveTicket
  | .error _ => []
  | .ok result =>
      match result.ticket with
      | none => []
      | some ticket =>
          if result.ok && ports.holds b ticket then
            [⟨req.strategyId, ticket, account⟩]
          else []

/-- A call of `place_order`. -/
def place (ports : DeskPorts β ε) (s : AccountDesk β ε) (account : AccountId)
    (b : β) (req : OrderRequest) : AccountDesk β ε × PlaceAnswer ε :=
  let call := ports.port.placeOrder b req
  let placed := s.withBroker ports account call.broker
  ({ placed with
      live := placed.live ++ openedBy ports req account call.broker call.answer },
    call.answer)

/-- The fills among the events of a result. -/
def reportsOf (accountId executedOn : AccountId) (req : OrderRequest)
    (result : OrderResult) : List FillReport :=
  (submissionEvents accountId req result).filterMap fun
    | .orderFilled order account => some ⟨order, account, executedOn⟩
    | _ => none

/-- `_publish_submission_result`, which looks the broker up once more. -/
def report (s : AccountDesk β ε) (executedOn : AccountId) (req : OrderRequest)
    (result : OrderResult) : AccountDesk β ε :=
  { s with
    fills :=
      s.fills ++ reportsOf (s.accountFor req.strategyId) executedOn req result }

/-- The outbox as its callers see it; its lookup reads the runtime's map. -/
def queueEnv (ports : DeskPorts β ε) (s : AccountDesk β ε) : QueueEnv β ε where
  brokerLookup := fun strategyId =>
    s.pool.get? (s.pool.accountFor s.lookupAccounts strategyId)
  describe := ports.describe
  number := ports.number

/-- Write the broker's answer into the row of a request. -/
def settleRow (ports : DeskPorts β ε) (s : AccountDesk β ε) (now : Time)
    (context : String) (row : RowId) (answer : PlaceAnswer ε) :
    AccountDesk β ε :=
  { s with
    queue := s.queue.map fun table =>
      table.settle (s.queueEnv ports) now context row answer }

/-- The loop of the recovery up to its next broker call. -/
def replayFrom (ports : DeskPorts β ε) (s : AccountDesk β ε)
    (done : List RecoveredOrder) :
    List (RowId × PendingOrderRequestRow) → Option (AccountDesk β ε)
  | [] => some { s with recovery := .publishing done }
  | (id, row) :: todo =>
      match row.request with
      | none => some { s with recovery := .raised }
      | some req =>
          let account := s.pool.accountFor s.lookupAccounts req.strategyId
          match s.pool.get? account with
          | none => none
          | some b =>
              let placed := s.place ports account b req
              some
                { placed.1 with
                  recovery := .awaiting id req account placed.2 todo done }

/-- The state after a step, if the step can happen. -/
def step? (ports : DeskPorts β ε) (s : AccountDesk β ε) :
    DeskLabel β → Option (AccountDesk β ε)
  | .handleSignal now clientOrderId signal =>
      match s.task, s.pool.get? (s.accountFor signal.strategyId) with
      | .idle, some b =>
          let account := s.accountFor signal.strategyId
          let gated := preTrade ports.port s.router s.risk now clientOrderId
            signal b
          let decided := s.withBroker ports account gated.broker
          some
            { decided with
              risk := gated.risk
              router := { s.router with contractSizeCache := gated.cache }
              task :=
                match gated.gate with
                | .accepted req => .accepted req account
                | .rejected _ | .invalid => .idle }
      | _, _ => none
  | .submit now =>
      match s.task with
      | .accepted req account =>
          match s.pool.get? account with
          | none => none
          | some b =>
              match s.queue with
              | none =>
                  let placed := s.place ports account b req
                  some
                    { placed.1 with
                      task := .awaiting req account none placed.2 }
              | some table =>
                  match table.enqueue now req with
                  | .error refused =>
                      some
                        { s with
                          task := .awaiting req account none (.ok refused) }
                  | .ok (rowId, table) =>
                      let placed := s.place ports account b req
                      some
                        { placed.1 with
                          queue := some table
                          task := .awaiting req account (some rowId) placed.2 }
      | _ => none
  | .answered now =>
      match s.task with
      | .awaiting req account row answer =>
          let settled :=
            match row with
            | none => { s with task := .idle }
            | some row => { s with task := .idle }.settleRow ports now "" row answer
          match answer with
          | .error _ => some settled
          | .ok result => some (settled.report account req result)
      | _ => none
  | .startReplay =>
      match s.recovery, s.queue with
      | .notStarted, some table => s.replayFrom ports [] table.pendingRows
      | _, _ => none
  | .replayAnswered now =>
      match s.recovery with
      | .awaiting id req account answer todo done =>
          let settled := s.settleRow ports now "replay " id answer
          match answer with
          | .error _ => settled.replayFrom ports done todo
          | .ok result =>
              settled.replayFrom ports (done ++ [⟨⟨req, result⟩, account⟩]) todo
      | _ => none
  | .publishReplayed =>
      match s.recovery with
      | .publishing (item :: items) =>
          some
            ({ s with recovery := .publishing items }.report item.account
              item.order.request item.order.result)
      | _ => none
  | .handleRequest request =>
      let account := s.accountFor request.strategyId
      match s.pool.get? account with
      | none => none
      | some b =>
          let call := StingerFx.handleRequest ports.manage s.router request b
          let carried := s.withBroker ports account call.broker
          some
            { carried with
              handled := s.handled ++
                [{ request := request
                   executedOn := account
                   holders :=
                    (s.live.filter fun entry =>
                      decide (entry.strategyId = request.strategyId ∧
                        entry.ticket = request.ticket)).map
                          LiveTicket.account }] }
  | .brokerMoves account b =>
      if s.pool.has account then some (s.withBroker ports account b) else none
  | .changeAccount strategyId account =>
      -- an unknown account raises, an unknown strategy is ignored
      if s.pool.has account ∧ strategyId ∈ s.runners then
        some
          { s with
            lookupAccounts := s.lookupAccounts.set strategyId account
            strategyAccounts := s.strategyAccounts.set strategyId account }
      else some s

def Step (ports : DeskPorts β ε) :
    AccountDesk β ε → DeskLabel β → AccountDesk β ε → Prop :=
  stepOf? (step? ports)

end AccountDesk

end StingerFx
